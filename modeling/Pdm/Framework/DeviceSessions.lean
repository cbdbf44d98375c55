/-
`PdmLunaService` in the build with `WEBOS_SESSION`: devices that are set to displays.

A client of a session sets devices to displays with `setDeviceForSession`.  Which display a
device was set to last, and by which session, is kept in two maps by hub port path; db8 has
a record of every device that is set to a display.  The lists of a display are posted to its
subscribers: by `setDeviceForSession` from the devices of the request, by an eject and a
removal from the records.

A request comes with its two lists of devices; a request without one of them names no device
in it.  The calls to db8 succeed.  What is sent to all displays at once, what is replied to
the client and the owners of device files are left out.
-/
import Pdm.Lib.KeyedStore

namespace Pdm

/-! ### Devices and their records -/

structure SessionDrive where
  driveName : String
  mountName : String := ""
  fsType : String := ""
  isMounted : Bool := false
  deriving DecidableEq, Repr

/-- A device in a request, a record and a payload. -/
structure SessionDevice where
  hubPortPath : String
  deviceSetId : String
  deviceType : String
  deviceNum : Int := 0
  errorReason : String := ""
  rootPath : String := ""
  storageDriveList : List SessionDrive := []
  deriving DecidableEq, Repr

namespace SessionDevice

def isStorage (d : SessionDevice) : Bool := d.deviceType = "USB_STORAGE"

end SessionDevice

/-- The records of db8, one for each hub port path. -/
abbrev History := KeyedStore SessionDevice.hubPortPath

inductive HistoryClause where
  | hubPortPathIs (hubPortPath : String)
  | deviceSetIdIs (deviceSetId : String)
  | deviceTypeIs (deviceType : String)
  | deviceTypeIsNot (deviceType : String)
  | deviceNumIs (deviceNum : Int)
  deriving DecidableEq, Repr

def HistoryClause.holds (d : SessionDevice) : HistoryClause → Bool
  | .hubPortPathIs hubPortPath => d.hubPortPath = hubPortPath
  | .deviceSetIdIs deviceSetId => d.deviceSetId = deviceSetId
  | .deviceTypeIs deviceType => d.deviceType = deviceType
  | .deviceTypeIsNot deviceType => d.deviceType ≠ deviceType
  | .deviceNumIs deviceNum => d.deviceNum = deviceNum

/-- The records that meet every clause. -/
def History.find (h : History) (query : List HistoryClause) : List SessionDevice :=
  h.entries.filter fun d => query.all (HistoryClause.holds d)

/-! ### What is sent -/

inductive Display where
  | avn
  | rseR
  | rseL
  deriving DecidableEq, Repr

def Display.name : Display → String
  | .avn => "AVN"
  | .rseR => "RSE-R"
  | .rseL => "RSE-L"

def displays : List Display := [.avn, .rseR, .rseL]

inductive SessionEvent where
  | autoDevices (display : Display)
  | autoNonStorageDevices (display : Display)
  | autoStorageDevicesHost
  | autoNonStorageDevicesHost
  | autoAttachedAllDevices (display : Display)
  deriving DecidableEq, Repr

/-- The lists under `deviceListInfo`. -/
structure SessionPayload where
  storageDeviceList : Option (List SessionDevice) := none
  nonStorageDeviceList : Option (List SessionDevice) := none
  deriving DecidableEq, Repr

/-- All devices that a payload lists. -/
def SessionPayload.devices (p : SessionPayload) : List SessionDevice :=
  p.storageDeviceList.getD [] ++ p.nonStorageDeviceList.getD []

/-- What the service does that others notice.  The path in a toast says whose it is. -/
inductive SessionAct where
  | deletePreviousMountName (hubPortPath : String) (mountNames : List String)
  | deletePreviousPayload (hubPortPath : String)
  | displayDisconnectedToast (hubPortPath device deviceSetId : String)
  | displayConnectedToast (device deviceSetId : String)
  | mountDeviceToSession (mountName driveName deviceSetId fsType : String)
  | umount (mountName : String)
  | subscriptionReply (event : SessionEvent) (payload : SessionPayload)
  deriving DecidableEq, Repr

def notifyToDisplay (payload : SessionPayload) (deviceSetId deviceType : String) :
    List SessionAct :=
  if deviceType = "USB_STORAGE" then
    (displays.filter (·.name = deviceSetId)).map
        (fun d => .subscriptionReply (.autoDevices d) payload) ++
      if deviceSetId = "HOST" then [.subscriptionReply .autoStorageDevicesHost payload] else []
  else
    (displays.filter (·.name = deviceSetId)).map
        (fun d => .subscriptionReply (.autoNonStorageDevices d) payload) ++
      if deviceSetId = "HOST" then [.subscriptionReply .autoNonStorageDevicesHost payload] else []

def notifyAllDeviceToDisplay (deviceSetId : String) (payload : SessionPayload) :
    List SessionAct :=
  (displays.filter (·.name = deviceSetId)).map fun d =>
    .subscriptionReply (.autoAttachedAllDevices d) payload

/-- `getStorageDevicePayload` with `getNonStorageDevicePayload`. -/
def allDevicePayload (devices : List SessionDevice) : SessionPayload :=
  { storageDeviceList := some (devices.filter (·.isStorage))
    nonStorageDeviceList := some (devices.filter fun d => !d.isStorage) }

/-- One of the two, as the devices of the kind. -/
def kindPayload (storage : Bool) (devices : List SessionDevice) : SessionPayload :=
  if storage then { storageDeviceList := some (devices.filter (·.isStorage)) }
  else { nonStorageDeviceList := some (devices.filter fun d => !d.isStorage) }

/-! ### The service -/

/-- What a call asks of db8. -/
inductive HistoryRequest where
  | find (query : List HistoryClause)
  | del (hubPortPath : String)
  deriving DecidableEq, Repr

inductive HistoryAnswer where
  | results (devices : List SessionDevice)
  | count (n : Nat)
  deriving DecidableEq, Repr

inductive HistoryCallback where
  | cbQueryResponse
  | cbDeleteResponse
  | cbPayloadResponse
  | cbHostPayloadResponse
  | cbAllDeviceSessionResponse
  deriving DecidableEq, Repr

/-- A call on its way.  The record of the removed device is for the record: no callback
looks at it.  The answer is there once db8 has served the call. -/
structure HistoryCall where
  callback : HistoryCallback
  request : HistoryRequest
  removed : Option SessionDevice := none
  answer : Option HistoryAnswer := none
  deriving DecidableEq, Repr

structure SessionService where
  portDisplayMap : String → Option String := fun _ => none
  hubPortPathSessionIdMap : String → Option String := fun _ => none
  m_deviceSetId : String := ""
  m_deviceType : String := ""
  m_ejectedDeviceSetId : String := ""
  history : History := KeyedStore.empty
  calls : List HistoryCall := []
  acts : List SessionAct := []

/-- What the system says while devices are ejected. -/
structure SessionFacts where
  umount : String → Bool := fun _ => true
  removeDirRecursive : String → Bool := fun _ => true
  userId : String → String := fun _ => ""

structure SetDeviceRequest where
  sessionId : String
  storageDeviceList : List SessionDevice := []
  nonStorageDeviceList : List SessionDevice := []
  deriving DecidableEq, Repr

namespace SessionService

def act (s : SessionService) (acts : List SessionAct) : SessionService :=
  { s with acts := s.acts ++ acts }

def mergePut (s : SessionService) (d : SessionDevice) : SessionService :=
  { s with history := s.history.put d }

def findPreviousSessionId (s : SessionService) (hubPortPath : String) : String :=
  (s.hubPortPathSessionIdMap hubPortPath).getD ""

/-- `m_portDisplayMap[hubPortPath] = deviceSetId` -/
def setDisplay (s : SessionService) (hubPortPath deviceSetId : String) : SessionService :=
  { s with portDisplayMap := fun p => if p = hubPortPath then some deviceSetId else s.portDisplayMap p }

/-- `m_hubPortPathSessionIdMap[hubPortPath] = sessionId` -/
def setSession (s : SessionService) (hubPortPath sessionId : String) : SessionService :=
  { s with
    hubPortPathSessionIdMap := fun p =>
      if p = hubPortPath then some sessionId else s.hubPortPathSessionIdMap p }

def removeHubPortPathFromMap (s : SessionService) (hubPortPath : String) : SessionService :=
  { s with
    portDisplayMap := fun p => if p = hubPortPath then none else s.portDisplayMap p
    hubPortPathSessionIdMap := fun p =>
      if p = hubPortPath then none else s.hubPortPathSessionIdMap p }

/-- The mount names of the record under the path. -/
def previousMountNames (s : SessionService) (hubPortPath : String) : List String :=
  match s.history.find [.hubPortPathIs hubPortPath] with
  | [] => []
  | d :: _ => if d.isStorage then d.storageDriveList.map SessionDrive.mountName else []

def deletePreviousMountName (s : SessionService) (hubPortPath : String) : SessionService :=
  s.act [.deletePreviousMountName hubPortPath (s.previousMountNames hubPortPath)]

def deletePreviousPayload (s : SessionService) (hubPortPath : String) : SessionService :=
  { s with history := s.history.remove hubPortPath }.act [.deletePreviousPayload hubPortPath]

/-! ### `cbSetDeviceForSession` -/

/-- The file systems that are mounted for a session. -/
def mountable (fsType : String) : Bool := fsType ∈ ["tntfs", "ntfs", "vfat", "tfat"]

def updateGetAllDevicePayload (d : SessionDevice) : SessionDevice :=
  if d.deviceSetId = "" then
    { d with
      rootPath := "Device not selected"
      errorReason := "Not selected"
      storageDriveList := d.storageDriveList.map fun drive =>
        if mountable drive.fsType then { drive with mountName := "", isMounted := false }
        else { drive with mountName := "UNSUPPORTED_FILESYSTEM" } }
  else d

def driveRootPath (drive : SessionDrive) : String :=
  "/tmp/usb/" ++ String.ofList (drive.driveName.toList.take 3)

/-- The mount names that `storeDeviceInfo` gives to the drives; the root path is that of the
last drive that can be mounted. -/
def withMountNames (d : SessionDevice) : SessionDevice :=
  if d.isStorage then
    { d with
      rootPath := (((d.storageDriveList.filter fun drive => mountable drive.fsType).getLast?).map
        driveRootPath).getD ""
      storageDriveList := d.storageDriveList.map fun drive =>
        if mountable drive.fsType then
          { drive with mountName := driveRootPath drive ++ "/" ++ drive.driveName }
        else { drive with mountName := "UNSUPPORTED_FILESYSTEM" } }
  else d

def storeDeviceInfo (s : SessionService) (d : SessionDevice) : SessionService × SessionDevice :=
  (s.mergePut (withMountNames d), withMountNames d)

/-- The first drive of the name is mounted. -/
def markMounted (driveName : String) : List SessionDrive → List SessionDrive
  | [] => []
  | drive :: drives =>
    if drive.driveName = driveName then { drive with isMounted := true } :: drives
    else drive :: markMounted driveName drives

def updateIsMount (s : SessionService) (d : SessionDevice) (driveName : String) :
    SessionService × SessionDevice :=
  let d := { d with storageDriveList := markMounted driveName d.storageDriveList }
  (s.mergePut d, d)

def updateErrorReason (s : SessionService) (d : SessionDevice) : SessionService × SessionDevice :=
  let d := if d.isStorage then { d with errorReason := "nothing" } else d
  (s.mergePut d, d)

/-- One drive of the loop that mounts the drives of a device. -/
def mountDrive (sd : SessionService × SessionDevice) (drive : SessionDrive) :
    SessionService × SessionDevice :=
  if mountable drive.fsType = true ∧ sd.2.deviceSetId ≠ "" then
    updateIsMount
      (sd.1.act [.mountDeviceToSession drive.mountName drive.driveName sd.2.deviceSetId drive.fsType])
      sd.2 drive.driveName
  else sd

def mountDrives (s : SessionService) (d : SessionDevice) : SessionService × SessionDevice :=
  if d.isStorage then
    let sd := d.storageDriveList.foldl mountDrive (s, d)
    if d.deviceSetId ≠ "" then
      let sd := updateErrorReason sd.1 sd.2
      (sd.1.act [.displayConnectedToast "Storage" d.deviceSetId], sd.2)
    else sd
  else (s, d)

/-- Whether the display a device was set to last is one it leaves. -/
def leaves (last deviceSetId : String) : Bool := last ≠ "" && last ≠ deviceSetId

/-- What is undone of a storage device that another session set, or that leaves its display. -/
def releaseStorageDevice (s : SessionService) (sessionId last : String) (d : SessionDevice) :
    SessionService × SessionDevice :=
  let previous := s.findPreviousSessionId d.hubPortPath
  if (previous ≠ "" ∧ previous ≠ sessionId) ∨ leaves last d.deviceSetId = true then
    let s := (s.deletePreviousMountName d.hubPortPath).deletePreviousPayload d.hubPortPath
    let s := if leaves last d.deviceSetId then
        s.act [.displayDisconnectedToast d.hubPortPath "Storage" last]
      else s
    (s, updateGetAllDevicePayload d)
  else (s, d)

/-- The devices among those the loops have been through that are set to `deviceSetId`: the
array of the display. -/
def sessionArray (deviceSetId : String) (devices : List SessionDevice) : List SessionDevice :=
  devices.filter (·.deviceSetId = deviceSetId)

/-- The array of a display, for its name only. -/
def displayArray? (deviceSetId : String) (devices : List SessionDevice) :
    Option (List SessionDevice) :=
  if deviceSetId ∈ displays.map Display.name then some (sessionArray deviceSetId devices) else none

/-- The devices that are set to some display. -/
def hostArray (devices : List SessionDevice) : List SessionDevice :=
  devices.filter fun d => d.deviceSetId ∈ displays.map Display.name

/-- What a loop of `cbSetDeviceForSession` carries from one device to the next. -/
structure Loop where
  service : SessionService
  /-- `lastStorageDeviceSetId`, `lastNonStorageDeviceSetId` -/
  last : String := ""
  /-- The devices the loop has been through, as it leaves them. -/
  done : List SessionDevice := []

/-- The display in the map, or else what the loop has carried along. -/
def Loop.lastDeviceSetId (loop : Loop) (hubPortPath : String) : String :=
  (loop.service.portDisplayMap hubPortPath).getD loop.last

def setStorageDevice (sessionId : String) (loop : Loop) (d : SessionDevice) : Loop :=
  let last := loop.lastDeviceSetId d.hubPortPath
  let (s, d) := loop.service.releaseStorageDevice sessionId last d
  let s := (s.setDisplay d.hubPortPath d.deviceSetId).setSession d.hubPortPath sessionId
  let (s, d) := if d.deviceSetId ≠ "" then s.storeDeviceInfo d else (s, d)
  let s := if last ≠ "" then
      s.act (notifyToDisplay { storageDeviceList := displayArray? last (loop.done ++ [d]) } last
        "USB_STORAGE")
    else s
  let (s, d) := s.mountDrives d
  { service := s, last := last, done := loop.done ++ [d] }

def setNonStorageDevice (loop : Loop) (d : SessionDevice) : Loop :=
  let last := loop.lastDeviceSetId d.hubPortPath
  let s := if leaves last d.deviceSetId then
      (loop.service.deletePreviousPayload d.hubPortPath).act
        [.displayDisconnectedToast d.hubPortPath d.deviceType last]
    else loop.service
  let s := s.setDisplay d.hubPortPath d.deviceSetId
  let (s, d) := if d.deviceSetId ≠ "" ∧ d.deviceSetId ≠ "Select" then s.storeDeviceInfo d else (s, d)
  let s := if last ≠ "" then
      s.act (notifyToDisplay { nonStorageDeviceList := displayArray? last (loop.done ++ [d]) } last
        "USB_NONSTORAGE")
    else s
  let s := s.act [.displayConnectedToast d.deviceType d.deviceSetId]
  { service := s, last := last, done := loop.done ++ [d] }

/-- The lists of one kind, to the displays that have a device in them and to the host. -/
def notifyDisplays (payload : List SessionDevice → SessionPayload) (deviceType : String)
    (devices : List SessionDevice) : List SessionAct :=
  displays.flatMap (fun d =>
    if sessionArray d.name devices ≠ [] then
      notifyToDisplay (payload (sessionArray d.name devices)) d.name deviceType
    else []) ++
  notifyToDisplay (payload (hostArray devices)) "HOST" deviceType

/-- The list of all devices of the display that a loop ended with. -/
def notifyLast (last : String) (devices : List SessionDevice) : List SessionAct :=
  if last ≠ "" then
    notifyAllDeviceToDisplay last
      (((displayArray? last devices).map allDevicePayload).getD {})
  else []

/-- The list of all devices of a display that has a device in it. -/
def notifyConnected (devices : List SessionDevice) (d : Display) : List SessionAct :=
  if sessionArray d.name devices ≠ [] then
    notifyAllDeviceToDisplay d.name (allDevicePayload (sessionArray d.name devices))
  else []

def storageLoop (s : SessionService) (r : SetDeviceRequest) : Loop :=
  r.storageDeviceList.foldl (setStorageDevice r.sessionId) { service := s }

def nonStorageLoop (s : SessionService) (r : SetDeviceRequest) : Loop :=
  let storage := s.storageLoop r
  r.nonStorageDeviceList.foldl setNonStorageDevice
    { service := storage.service.act
        (notifyDisplays (fun l => { storageDeviceList := some l }) "USB_STORAGE" storage.done) }

def cbSetDeviceForSession (s : SessionService) (r : SetDeviceRequest) : SessionService :=
  let storage := s.storageLoop r
  let nonStorage := s.nonStorageLoop r
  let all := storage.done ++ nonStorage.done
  nonStorage.service.act
    (notifyDisplays (fun l => { nonStorageDeviceList := some l }) "USB_NONSTORAGE" nonStorage.done ++
      notifyLast nonStorage.last all ++ notifyLast storage.last all ++
      [Display.avn, .rseL, .rseR].flatMap (notifyConnected all))

/-! ### Eject -/

/-- What an eject makes of a drive of a device at a display. -/
def ejectDrive (facts : SessionFacts) (deviceSetId : String) (drive : SessionDrive) : SessionDrive :=
  if facts.umount drive.mountName then
    if facts.removeDirRecursive drive.mountName = true ∧
        deviceSetId ∈ displays.map Display.name then
      { drive with mountName := "/tmp/users/" ++ facts.userId deviceSetId ++ "/usb", isMounted := false }
    else { drive with isMounted := false }
  else drive

/-- `allPartitionUnmounted`: the last drive decides. -/
def partitionsUnmounted (facts : SessionFacts) (d : SessionDevice) : Bool :=
  if d.isStorage then
    d.storageDriveList.foldl (fun _ drive => facts.umount drive.mountName) false
  else false

/-- The record of a device that has been ejected. -/
def ejected (facts : SessionFacts) (d : SessionDevice) : SessionDevice :=
  if d.isStorage then
    { d with
      storageDriveList := d.storageDriveList.map (ejectDrive facts d.deviceSetId)
      errorReason := if partitionsUnmounted facts d then "Ejected" else d.errorReason }
  else d

/-- `getStorageDevicePayload` and `getNonStorageDevicePayload` of what db8 has found. -/
def cbUpdateDeviceListResponse (s : SessionService) (results : List SessionDevice) :
    SessionService :=
  s.act (notifyAllDeviceToDisplay s.m_ejectedDeviceSetId (allDevicePayload results))

def cbUpdateStorageDeviceListResponse (s : SessionService) (results : List SessionDevice) :
    SessionService :=
  s.act (notifyToDisplay (kindPayload true results) s.m_ejectedDeviceSetId "USB_STORAGE")

def updateDeviceList (s : SessionService) (deviceSetId : String) : SessionService :=
  s.cbUpdateDeviceListResponse (s.history.find [.deviceSetIdIs deviceSetId])

def updateStorageDeviceList (s : SessionService) (deviceSetId : String) : SessionService :=
  s.cbUpdateStorageDeviceListResponse (s.history.find [.deviceSetIdIs deviceSetId])

def ejectDevice (s : SessionService) (facts : SessionFacts) (d : SessionDevice) : SessionService :=
  if d.errorReason = "Ejected" then s
  else
    let s := { s with m_ejectedDeviceSetId := d.deviceSetId }
    let s := if d.isStorage then s.act (d.storageDriveList.map fun drive => .umount drive.mountName)
      else s
    let s := s.mergePut (ejected facts d)
    if partitionsUnmounted facts d then
      (s.updateDeviceList d.deviceSetId).updateStorageDeviceList d.deviceSetId
    else s

/-- A whole eject: db8 answers each call before anything else happens. -/
def eject (s : SessionService) (facts : SessionFacts) (deviceNum : Int) : SessionService :=
  match s.history.find [.deviceNumIs deviceNum] with
  | [] => s
  | d :: _ => s.ejectDevice facts d

/-! ### Removal -/

def call (s : SessionService) (c : HistoryCall) : SessionService :=
  { s with calls := s.calls ++ [c] }

def queryDevice (s : SessionService) (hubPortPath : String) : SessionService :=
  s.call { callback := .cbQueryResponse, request := .find [.hubPortPathIs hubPortPath] }

def typeClause (deviceType : String) : HistoryClause :=
  if deviceType = "USB_STORAGE" then .deviceTypeIs "USB_STORAGE" else .deviceTypeIsNot "USB_STORAGE"

/-- The paths and mount names that a removed storage device leaves. -/
def umountRemoved (d : SessionDevice) : List SessionAct :=
  if d.isStorage then d.storageDriveList.map fun drive => .umount drive.mountName else []

def deleteAndUpdatePayload (s : SessionService) (d : SessionDevice) : SessionService :=
  let s := { s with m_deviceSetId := d.deviceSetId, m_deviceType := d.deviceType }
  let s := s.act (umountRemoved d)
  let s := s.call
    { callback := .cbDeleteResponse, request := .del d.hubPortPath, removed := some d }
  s.act [.displayDisconnectedToast d.hubPortPath
    (if s.m_deviceType = "USB_STORAGE" then "Storage" else s.m_deviceType) s.m_deviceSetId]

def cbQueryResponse (s : SessionService) (results : List SessionDevice) : SessionService :=
  match results with
  | [] => s
  | d :: _ => s.deleteAndUpdatePayload d

def updateHostPayload (s : SessionService) (removed : Option SessionDevice) (deviceType : String) :
    SessionService :=
  s.call
    { callback := .cbHostPayloadResponse
      request := .find [typeClause deviceType]
      removed := removed }

def updateAllDeviceSessionPayload (s : SessionService) (removed : Option SessionDevice)
    (deviceSetId : String) : SessionService :=
  s.call
    { callback := .cbAllDeviceSessionResponse
      request := .find [.deviceSetIdIs deviceSetId]
      removed := removed }

def updatePayload (s : SessionService) (removed : Option SessionDevice)
    (deviceSetId deviceType : String) : SessionService :=
  let s := s.call
    { callback := .cbPayloadResponse
      request := .find [.deviceSetIdIs deviceSetId, typeClause deviceType]
      removed := removed }
  (s.updateHostPayload removed deviceType).updateAllDeviceSessionPayload removed deviceSetId

def cbDeleteResponse (s : SessionService) (removed : Option SessionDevice) (count : Nat) :
    SessionService :=
  if count = 0 then s else s.updatePayload removed s.m_deviceSetId s.m_deviceType

/-- The kind of a list: that of its first device, or of the device removed last. -/
def payloadKind (s : SessionService) (results : List SessionDevice) : Bool :=
  match results with
  | [] => s.m_deviceType = "USB_STORAGE"
  | d :: _ => d.isStorage

def kindName (storage : Bool) : String := if storage then "USB_STORAGE" else "NON_STORAGE"

def cbPayloadResponse (s : SessionService) (results : List SessionDevice) : SessionService :=
  let storage := s.payloadKind results
  s.act (notifyToDisplay (kindPayload storage results) s.m_deviceSetId (kindName storage))

def cbHostPayloadResponse (s : SessionService) (results : List SessionDevice) : SessionService :=
  let storage := s.payloadKind results
  s.act (notifyToDisplay (kindPayload storage results) "HOST" (kindName storage))

def cbAllDeviceSessionResponse (s : SessionService) (results : List SessionDevice) :
    SessionService :=
  s.act (notifyAllDeviceToDisplay s.m_deviceSetId (allDevicePayload results))

/-- The part of `notifySubscribers` for a device that is gone. -/
def notifyRemoved (s : SessionService) (hubPortPath : String) : SessionService :=
  (s.queryDevice hubPortPath).removeHubPortPathFromMap hubPortPath

/-- What db8 makes of a request. -/
def execute (s : SessionService) : HistoryRequest → SessionService × HistoryAnswer
  | .find query => (s, .results (s.history.find query))
  | .del hubPortPath =>
    ({ s with history := s.history.remove hubPortPath },
      .count (s.history.find [.hubPortPathIs hubPortPath]).length)

/-- What the callback of a call does with its answer; an answer of the other sort has
nothing in it for the callback. -/
def callback (s : SessionService) (c : HistoryCall) : HistoryAnswer → SessionService
  | .results results =>
    match c.callback with
    | .cbQueryResponse => s.cbQueryResponse results
    | .cbDeleteResponse => s
    | .cbPayloadResponse => s.cbPayloadResponse results
    | .cbHostPayloadResponse => s.cbHostPayloadResponse results
    | .cbAllDeviceSessionResponse => s.cbAllDeviceSessionResponse results
  | .count n =>
    match c.callback with
    | .cbDeleteResponse => s.cbDeleteResponse c.removed n
    | _ => s

/-- A whole removal: db8 answers each call before anything else happens.  A device without a
path is not looked for. -/
def removal (s : SessionService) (hubPortPath : String) : SessionService :=
  if hubPortPath = "" then s
  else
    let results := s.history.find [.hubPortPathIs hubPortPath]
    let s := s.removeHubPortPathFromMap hubPortPath
    match results with
    | [] => s
    | d :: _ =>
      let s :=
        ({ s with m_deviceSetId := d.deviceSetId, m_deviceType := d.deviceType }.act
          (umountRemoved d)).act
          [.displayDisconnectedToast d.hubPortPath
            (if d.isStorage then "Storage" else d.deviceType) d.deviceSetId]
      let s := { s with history := s.history.remove d.hubPortPath }
      let s := s.cbPayloadResponse
        (s.history.find [.deviceSetIdIs d.deviceSetId, typeClause d.deviceType])
      let s := s.cbHostPayloadResponse (s.history.find [typeClause d.deviceType])
      s.cbAllDeviceSessionResponse (s.history.find [.deviceSetIdIs d.deviceSetId])

end SessionService

/-- Steps of removals.  Only a device with a path is looked for.  db8 serves a call at some
time after it was made, and its answer is delivered at some time after that, each in any
order among the calls. -/
inductive RemovalStep where
  | removed (hubPortPath : String)
  | serve (call : Nat)
  | deliver (call : Nat)
  deriving DecidableEq, Repr

namespace SessionService

def step (s : SessionService) : RemovalStep → Option SessionService
  | .removed hubPortPath => if hubPortPath = "" then none else some (s.notifyRemoved hubPortPath)
  | .serve i =>
    match s.calls[i]? with
    | some c =>
      if c.answer = none then
        let (s, answer) := s.execute c.request
        some { s with calls := s.calls.set i { c with answer := some answer } }
      else none
    | none => none
  | .deliver i =>
    match s.calls[i]? with
    | some c => c.answer.map fun answer => { s with calls := s.calls.eraseIdx i }.callback c answer
    | none => none

end SessionService

end Pdm
