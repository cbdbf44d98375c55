/-
`PdmLunaService` in the build with `WEBOS_SESSION`: requests that ask db8 first.

A request's callback puts what it needs later into members of the service and sends a find
call to db8; the callback of db8's answer takes it from there.  The members are shared by
all requests.  The callbacks run one after the other in the main loop.

A request here has passed its schema, and the calls that the callbacks make go out.  db8
answers a find call once; what it answers, and what the system says of drives, comes with
the step.  `asked` is a record of the requests and `sent` one of the find calls; the request
that a call carries is for the record too, no callback of an answer looks at it.

`replyMsg` is a plain pointer.  luna-service frees a message after its callback unless the
callback has taken a reference (`LSMessageRef`) or a subscription holds it: the callbacks of
the two lists of `getDevicesFromDB` take none.
-/
import Mathlib.Data.List.Basic
import Pdm.Lib.Schedules

namespace Pdm

/-! ### Requests -/

inductive LunaMethod where
  | getSpaceInfo (driveName : String)
  | isWritableDrive (driveName : String)
  | eject (deviceNum : Int)
  | getAttachedDeviceList
  | getAttachedStorageDeviceList
  | getAttachedNonStorageDeviceList (category : String)
  deriving DecidableEq, Repr

/-- A message of a client.  `sessionMap` is `m_sessionMap` as its callback finds it, from
the identifiers of device sets to those of sessions. -/
structure LunaRequest where
  message : Nat
  method : LunaMethod
  sessionId : String := "host"
  /-- `LSMessageIsSubscription` -/
  isSubscription : Bool := false
  sessionMap : List (String × String) := []
  deriving DecidableEq, Repr

/-- The conditions of a find call. -/
inductive WhereClause where
  | deviceTypeIs (deviceType : String)
  | deviceTypeIsNot (deviceType : String)
  | deviceSetIdIs (deviceSetId : String)
  | deviceNumIs (deviceNum : Int)
  deriving DecidableEq, Repr

inductive FindCallback where
  | cbFindDriveName
  | cbEjectDevice
  | cbDbResponse
  | cbDb8FindResponse
  deriving DecidableEq, Repr

structure FindCall where
  callback : FindCallback
  query : List WhereClause
  request : LunaRequest
  deriving DecidableEq, Repr

/-! ### Answers -/

structure DbDrive where
  driveName : String
  mountName : String
  deriving DecidableEq, Repr

structure DbDevice where
  deviceType : String
  errorReason : String := ""
  storageDriveList : List DbDrive := []
  deriving DecidableEq, Repr

structure DbPayload where
  returnValue : Bool
  /-- `none` where the answer has no array under this name. -/
  results : Option (List DbDevice)
  deriving DecidableEq, Repr

structure FsInfo where
  f_blocks : Nat
  f_bavail : Nat
  f_bsize : Nat
  deriving DecidableEq, Repr

/-- What the system says while an answer is handled. -/
structure DriveFacts where
  isDriveBusy : String → Bool := fun _ => false
  statfs : String → Option FsInfo := fun _ => none
  isWritable : String → Bool := fun _ => false
  umount : String → Bool := fun _ => false

/-! ### Replies -/

structure SpaceInfoPayload where
  driveSize : Nat
  freeSize : Nat
  usedRate : Nat
  usedSize : Nat
  deriving DecidableEq, Repr

inductive DevicePayload where
  | storageDeviceList (devices : List DbDevice)
  | nonStorageDeviceList (devices : List DbDevice)
  | empty
  deriving DecidableEq, Repr

structure LunaReply where
  returnValue : Bool := false
  errorCode : Option Nat := none
  errorText : Option String := none
  /-- under "error Text", with a space -/
  ejectText : Option String := none
  spaceInfo : Option SpaceInfoPayload := none
  isWritable : Option Bool := none
  deviceListInfo : Option (List DevicePayload) := none
  deriving DecidableEq, Repr

structure LunaService where
  replyMsg : Option Nat := none
  /-- The messages that a reference or a subscription keeps after their callback. -/
  kept : List Nat := []
  requestedDrive : String := ""
  isGetSpaceInfoRequest : Bool := false
  isRequestForStorageDevice : Bool := false
  /-- The find calls that db8 has not answered. -/
  calls : List FindCall := []
  sent : List FindCall := []
  /-- What has been sent, and the message it was sent to. -/
  replies : List (Nat × LunaReply) := []
  asked : List LunaRequest := []
  deriving DecidableEq, Repr

inductive LunaStep where
  | request (request : LunaRequest)
  /-- db8 answers the find call of the message; `none` is an answer without payload. -/
  | answer (message : Nat) (payload : Option DbPayload) (facts : DriveFacts)

namespace LunaService

/-! ### The callbacks of requests -/

/-- The device set of a session. -/
def deviceSetId (sessionMap : List (String × String)) (sessionId : String) : String :=
  ((sessionMap.find? (·.2 = sessionId)).map Prod.fst).getD ""

def lsMessageRef (s : LunaService) (r : LunaRequest) : LunaService :=
  { s with kept := s.kept ++ [r.message] }

def lsCallOneReply (s : LunaService) (call : FindCall) : LunaService :=
  { s with calls := s.calls ++ [call], sent := s.sent ++ [call] }

def findDriveName (s : LunaService) (r : LunaRequest) (driveName : String)
    (isGetSpaceInfoRequest : Bool) : LunaService :=
  { s.lsMessageRef r with
    replyMsg := some r.message
    requestedDrive := driveName
    isGetSpaceInfoRequest := isGetSpaceInfoRequest }.lsCallOneReply
      ⟨.cbFindDriveName, [.deviceTypeIs "USB_STORAGE"], r⟩

def cbGetSpaceInfo (s : LunaService) (r : LunaRequest) (driveName : String) : LunaService :=
  s.findDriveName r driveName true

def cbIsWritableDrive (s : LunaService) (r : LunaRequest) (driveName : String) : LunaService :=
  s.findDriveName r driveName false

def cbEject (s : LunaService) (r : LunaRequest) (deviceNum : Int) : LunaService :=
  { s.lsMessageRef r with replyMsg := some r.message }.lsCallOneReply
    ⟨.cbEjectDevice, [.deviceNumIs deviceNum], r⟩

def cbGetAttachedDeviceList (s : LunaService) (r : LunaRequest) : LunaService :=
  let set := if r.sessionId ≠ "host" then deviceSetId r.sessionMap r.sessionId else ""
  { s.lsMessageRef r with replyMsg := some r.message }.lsCallOneReply
    ⟨.cbDbResponse, [.deviceSetIdIs set], r⟩

def getDevicesFromDB (s : LunaService) (r : LunaRequest) (storage : Bool) : LunaService :=
  let clause := if storage then WhereClause.deviceTypeIs "USB_STORAGE"
    else .deviceTypeIsNot "USB_STORAGE"
  let query := if r.sessionId ≠ "host" then
      [.deviceSetIdIs (deviceSetId r.sessionMap r.sessionId), clause]
    else [clause]
  { s with isRequestForStorageDevice := storage }.lsCallOneReply ⟨.cbDb8FindResponse, query, r⟩

/-- Whether the callback of one of the two lists calls `subscriptionAdd`. -/
def subscribes (r : LunaRequest) : Bool :=
  r.isSubscription && (r.sessionId = "host" ||
    deviceSetId r.sessionMap r.sessionId ∈ ["AVN", "RSE-L", "RSE-R"])

def subscriptionAdd (s : LunaService) (r : LunaRequest) : LunaService :=
  if subscribes r then { s with kept := s.kept ++ [r.message] } else s

def cbGetAttachedStorageDeviceList (s : LunaService) (r : LunaRequest) : LunaService :=
  ({ s with replyMsg := some r.message }.getDevicesFromDB r true).subscriptionAdd r

def categories : List String := ["", "Net", "Audio", "Video"]

def categoryMismatch : LunaReply :=
  { errorCode := some 104, errorText := some "Category is not matching" }

def cbGetAttachedNonStorageDeviceList (s : LunaService) (r : LunaRequest) (category : String) :
    LunaService :=
  if category ∈ categories then
    ({ s with replyMsg := some r.message }.getDevicesFromDB r false).subscriptionAdd r
  else
    { s with
      replyMsg := some r.message
      replies := s.replies ++ [(r.message, categoryMismatch)] }

def callback (s : LunaService) (r : LunaRequest) : LunaService :=
  match r.method with
  | .getSpaceInfo driveName => s.cbGetSpaceInfo r driveName
  | .isWritableDrive driveName => s.cbIsWritableDrive r driveName
  | .eject deviceNum => s.cbEject r deviceNum
  | .getAttachedDeviceList => s.cbGetAttachedDeviceList r
  | .getAttachedStorageDeviceList => s.cbGetAttachedStorageDeviceList r
  | .getAttachedNonStorageDeviceList category => s.cbGetAttachedNonStorageDeviceList r category

/-! ### The callbacks of answers

Each gives what it sends to `replyMsg`, or `none` where it returns without a reply. -/

def spaceInfo (fsInfo : FsInfo) : SpaceInfoPayload :=
  let driveSize := fsInfo.f_blocks * (fsInfo.f_bsize / 1024)
  let freeSize := fsInfo.f_bavail * (fsInfo.f_bsize / 1024)
  let usedSize := if driveSize > freeSize then driveSize - freeSize else 0
  { driveSize := driveSize
    freeSize := freeSize
    usedRate := if driveSize ≠ 0 then usedSize * 100 / driveSize else 0
    usedSize := usedSize }

/-- What `cbFindDriveName` writes into its reply for a drive of the requested name. -/
def describeDrive (isGetSpaceInfoRequest : Bool) (facts : DriveFacts) (json : LunaReply)
    (drive : DbDrive) : LunaReply :=
  if facts.isDriveBusy drive.mountName = false then
    if isGetSpaceInfoRequest then
      match facts.statfs drive.mountName with
      | none => { json with returnValue := false, errorText := some "statfs failed" }
      | some fsInfo => { json with spaceInfo := some (spaceInfo fsInfo), returnValue := true }
    else { json with returnValue := true, isWritable := some (facts.isWritable drive.driveName) }
  else { json with returnValue := false, errorText := some "drive is busy" }

/-- The drives of the requested name, the first of each device. -/
def requestedDrives (driveName : String) (results : List DbDevice) : List DbDrive :=
  results.filterMap fun device => device.storageDriveList.find? (·.driveName = driveName)

def cbFindDriveName (driveName : String) (isGetSpaceInfoRequest : Bool)
    (payload : Option DbPayload) (facts : DriveFacts) : Option LunaReply :=
  payload.map fun payload =>
    let drives := requestedDrives driveName (payload.results.getD [])
    if drives = [] then
      if isGetSpaceInfoRequest = false then
        { errorCode := some 1027, errorText := some "Device error unknown" }
      else { errorCode := some 1022, errorText := some "Drive not found in device" }
    else drives.foldl (describeDrive isGetSpaceInfoRequest facts) {}

/-- `allPartitionUnmounted`: the last drive decides. -/
def allPartitionUnmounted (facts : DriveFacts) (device : DbDevice) : Bool :=
  if device.deviceType = "USB_STORAGE" then
    device.storageDriveList.foldl (fun _ drive => facts.umount drive.mountName) false
  else false

def ejectDevice (device : DbDevice) (facts : DriveFacts) : Option LunaReply :=
  if device.errorReason = "Ejected" then
    some { returnValue := true, ejectText := some "Already ejected" }
  else if allPartitionUnmounted facts device then some { returnValue := true }
  else none

def cbEjectDevice (payload : Option DbPayload) (facts : DriveFacts) : Option LunaReply :=
  payload.bind fun payload =>
    let notFound : Option LunaReply := some { errorText := some "No device found" }
    match payload.returnValue, payload.results with
    | false, _ => notFound
    | true, some [] => notFound
    | true, some (device :: _) => ejectDevice device facts
    | true, none => none

def getStorageDevicePayload (results : List DbDevice) : DevicePayload :=
  .storageDeviceList (results.filter (·.deviceType = "USB_STORAGE"))

def getNonStorageDevicePayload (results : List DbDevice) : DevicePayload :=
  .nonStorageDeviceList (results.filter (·.deviceType ≠ "USB_STORAGE"))

def cbDbResponse (payload : Option DbPayload) : Option LunaReply :=
  payload.bind fun payload =>
    if payload.returnValue = false then none
    else
      let results := payload.results.getD []
      some { returnValue := true,
             deviceListInfo :=
              some [getStorageDevicePayload results, getNonStorageDevicePayload results] }

def cbDb8FindResponse (isRequestForStorageDevice : Bool) (payload : Option DbPayload) :
    Option LunaReply :=
  payload.bind fun payload =>
    if payload.returnValue = false then none
    else
      let devicePayload :=
        match payload.results with
        | none => .empty
        | some [] =>
          if isRequestForStorageDevice then getStorageDevicePayload []
          else getNonStorageDevicePayload []
        | some (first :: rest) =>
          if first.deviceType = "USB_STORAGE" then getStorageDevicePayload (first :: rest)
          else getNonStorageDevicePayload (first :: rest)
      some { returnValue := true, deviceListInfo := some [devicePayload] }

/-- What the callback of an answer sends. -/
def reply (s : LunaService) (callback : FindCallback) (payload : Option DbPayload)
    (facts : DriveFacts) : Option LunaReply :=
  match callback with
  | .cbFindDriveName => cbFindDriveName s.requestedDrive s.isGetSpaceInfoRequest payload facts
  | .cbEjectDevice => cbEjectDevice payload facts
  | .cbDbResponse => cbDbResponse payload
  | .cbDb8FindResponse => cbDb8FindResponse s.isRequestForStorageDevice payload

/-- The message that a callback of an answer replies to, where it is still there. -/
def getReplyMsg (s : LunaService) : Option Nat := s.replyMsg.filter (· ∈ s.kept)

/-- One step, where it can be taken.  What a reply to a message that is gone does is left
open by luna-service; no client gets one. -/
def step (s : LunaService) : LunaStep → Option LunaService
  | .request r =>
    if r.message ∈ s.asked.map LunaRequest.message then none
    else some { s.callback r with asked := s.asked ++ [r] }
  | .answer message payload facts =>
    match s.calls.find? (·.request.message = message) with
    | none => none
    | some call =>
      some { s with
        calls := s.calls.erase call
        replies := s.replies ++
          ((s.getReplyMsg.bind fun msg =>
            (s.reply call.callback payload facts).map fun json => (msg, json)).toList) }

end LunaService

end Pdm
