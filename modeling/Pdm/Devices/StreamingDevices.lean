/-
`MTPDevice` and `PTPDevice`: media players and cameras, whose file systems a helper
program mounts and `fusermount` unmounts.
-/
import Pdm.Utils.DiskPartitionInfo

namespace Pdm

/-! ### `MTPDevice` -/

structure MTPDevice extends Storage where
  deriving DecidableEq, Repr

instance : IDevice MTPDevice := ⟨fun d => d.toDevice⟩

namespace MTPDevice

/-- `MTP_MOUNT_COMMAND` -/
def MTP_MOUNT_COMMAND : List String :=
  ["simple-mtpfs", "-o", "nonempty", "-o", "auto_unmount", "-o", "allow_other"]

/-- The constructor, for an event with the given `DEVPATH`. -/
def new (address : Nat) (node configRootPath : String) : MTPDevice where
  address := address
  node := node
  deviceType := "MTP"
  errorReason := .unsupportFs
  configRootPath := configRootPath
  storageType := .usbMtp
  fsType := "mtp_fuse"

/-- `MTPDevice::setDeviceInfo`: the directory is named by the link behind `/dev/lib`. -/
def setDeviceInfo (env : Env) (d : MTPDevice) (devClass : DeviceClass) : MTPDevice :=
  let d :=
    if devClass.devType = USB_DEVICE then
      let d := { d with toDevice := d.toDevice.setSpeed devClass }
      if devClass.devLinks ≠ "" then
        let driveName := eraseFront 8 devClass.devLinks
        let rootPath := d.rootPath ++ driveName
        { d with
          driveName := driveName
          rootPath := rootPath
          mountName := rootPath ++ "/" ++ driveName }
      else { d with driveName := devClass.devLinks }
    else d
  { d with toDevice := d.toDevice.setDeviceInfo env devClass }

/-- `MTPDevice::mountDevice` -/
def mountDevice (env : Env) (s : Sys) (d : MTPDevice) (mtpDeviceName : String) : Bool × Sys :=
  let res := s.mountHelper env
    (MTP_MOUNT_COMMAND ++ ["/dev/" ++ mtpDeviceName, d.mountName]) d.mountName
  (res.1 = 0, res.2)

/-- `MTPDevice::unmountDevice` -/
def unmountDevice (env : Env) (s : Sys) (d : MTPDevice) : Bool × Sys :=
  let res := s.fusermount env d.mountName
  (res.1 = 0, res.2)

/-- `MTPDevice::mtpMount` -/
def mtpMount (env : Env) (s : Sys) (d : MTPDevice) (mtpDeviceName : String) :
    Out MTPDevice PdmDevStatus :=
  if mtpDeviceName ≠ "" ∧ d.mountName ≠ "" then
    let dir := s.createDir env d.mountName
    let mnt := if dir.1 then mountDevice env dir.2 d mtpDeviceName else dir
    if mnt.1 then ⟨mnt.2, { d with errorReason := .nothing, isMounted := true }, .success⟩
    else ⟨mnt.2.removeDirRecursive d.rootPath, d, .umountFail⟩
  else ⟨s, d, .umountFail⟩

/-- `MTPDevice::mtpUmount` -/
def mtpUmount (env : Env) (s : Sys) (d : MTPDevice) : Out MTPDevice PdmDevStatus :=
  if d.isMounted = false then ⟨s, d, .umountFail⟩
  else
    let u := unmountDevice env s d
    if u.1 then ⟨u.2, { d with isMounted := false }, .success⟩ else ⟨u.2, d, .umountFail⟩

/-- `MTPDevice::onDeviceRemove` -/
def onDeviceRemove (env : Env) (s : Sys) (d : MTPDevice) : Out MTPDevice Unit :=
  let s :=
    if d.isMounted = false ∧ d.errorReason ≠ .ejected then
      s.notify .mtpDevice .removeBeforeMount (some d.address)
    else s
  let u : Out MTPDevice PdmDevStatus :=
    if d.errorReason ≠ .ejected then mtpUmount env s d else ⟨s, d, .success⟩
  ⟨u.state.removeDirRecursive u.obj.rootPath, u.obj, ()⟩

/-- `MTPDevice::eject` -/
def eject (env : Env) (s : Sys) (d : MTPDevice) : Out MTPDevice PdmDevStatus :=
  let u := mtpUmount env s d
  if u.ret = .success then ⟨u.state, { u.obj with errorReason := .ejected }, .success⟩
  else ⟨u.state, u.obj, .ejectFail⟩

/-- `MTPDevice::resumeRequest` -/
def resumeRequest (d : MTPDevice) : MTPDevice :=
  { d with isPowerOnConnect := true, powerStatus := true }

end MTPDevice

/-! ### `PTPDevice` -/

/-- `PTPDevice`; a drive status of `unset` is the empty string it starts out with. -/
structure PTPDevice extends Storage where
  ptpDevNum : Int := 0
  driveStatus : DriveStatus := .unset
  deriving DecidableEq, Repr

instance : IDevice PTPDevice := ⟨fun d => d.toDevice⟩

namespace PTPDevice

/-- `PTP_MOUNT_COMMAND` -/
def PTP_MOUNT_COMMAND : List String :=
  ["/usr/bin/gphotofs", "-o", "nonempty", "-o", "auto_unmount", "-o", "allow_other"]

/-- A number as `setfill('0') << setw(3)` writes it. -/
def threeDigits (n : Int) : String :=
  String.ofList (List.replicate (3 - (toString n).length) '0') ++ toString n

/-- The constructor, for an event with the given `DEVPATH`. -/
def new (address : Nat) (node configRootPath : String) : PTPDevice where
  address := address
  node := node
  deviceType := "PTP"
  errorReason := .unsupportFs
  configRootPath := configRootPath
  storageType := .usbPtp
  fsType := "ptp_fuse"

/-- The entries of a directory but for `.` and `..`. -/
def entries (env : Env) (path : String) : List String :=
  ((env.readdir path).getD []).filter fun name => name ≠ "." ∧ name ≠ ".."

/-- `PTPDevice::checkEmpty`: there is something in the directory. -/
def checkEmpty (env : Env) (path : String) : Bool :=
  path ≠ "" && entries env path ≠ []

/-- `PTPDevice::checkDirectory`: there is something in the directory's first entry. -/
def checkDirectory (env : Env) (path : String) : Bool :=
  if path = "" then false
  else
    match entries env path with
    | [] => false
    | dirName :: _ => checkEmpty env (path ++ "/" ++ dirName)

/-- `PTPDevice::mountDevice` -/
def mountDevice (env : Env) (s : Sys) (d : PTPDevice) : Bool × Sys :=
  let port := "--port=usb:" ++ threeDigits d.busNum ++ "," ++ threeDigits d.ptpDevNum
  let res := s.mountHelper env (PTP_MOUNT_COMMAND ++ [port, d.mountName]) d.mountName
  if res.1 ≠ 0 then (false, res.2) else (checkDirectory env d.mountName, res.2)

/-- `PTPDevice::unmountDevice` -/
def unmountDevice (env : Env) (s : Sys) (d : PTPDevice) : Bool × Sys :=
  if d.isMounted = false then (true, s)
  else
    let res := s.fusermount env d.mountName
    (res.1 = 0, res.2)

/-- `PTPDirName` -/
def dirName (d : PTPDevice) : String :=
  "PTP-" ++ toString d.busNum ++ "-" ++ toString d.ptpDevNum

/-- `PTPDevice::ptpMount` -/
def ptpMount (env : Env) (s : Sys) (d : PTPDevice) : Out PTPDevice PdmDevStatus :=
  if d.rootPath = "" then ⟨s, d, .rootPathEmpty⟩
  else
    let d := { d with
      rootPath := d.rootPath ++ d.dirName
      mountName := d.rootPath ++ d.dirName ++ "/" ++ d.dirName
      driveName := d.dirName }
    let dir := s.createDir env d.mountName
    let mnt := if dir.1 then mountDevice env dir.2 d else dir
    if mnt.1 then
      ⟨mnt.2, { d with isMounted := true, errorReason := .nothing, driveStatus := .mountOk },
        .success⟩
    else ⟨mnt.2, { d with driveStatus := .mountNotOk }, .umountFail⟩

/-- `PTPDevice::ptpUmount` -/
def ptpUmount (env : Env) (s : Sys) (d : PTPDevice) : Out PTPDevice PdmDevStatus :=
  let d := { d with driveStatus := .umountNotOk }
  if d.isMounted = false then ⟨s, d, .umountFail⟩
  else
    let u := unmountDevice env s d
    if u.1 then ⟨u.2, { d with isMounted := false, driveStatus := .umountOk }, .success⟩
    else ⟨u.2, d, .umountFail⟩

/-- `PTPDevice::onDeviceRemove` -/
def onDeviceRemove (env : Env) (s : Sys) (d : PTPDevice) : Out PTPDevice Unit :=
  let u : Out PTPDevice PdmDevStatus :=
    if d.errorReason ≠ .ejected then ptpUmount env s d else ⟨s, d, .success⟩
  ⟨u.state.removeDirRecursive u.obj.rootPath, u.obj, ()⟩

/-- `PTPDevice::setDeviceInfo` -/
def setDeviceInfo (env : Env) (s : Sys) (d : PTPDevice) (devClass : DeviceClass) :
    Out PTPDevice Unit :=
  let d :=
    if devClass.devType = USB_DEVICE then
      let d := { d with toDevice := d.toDevice.setSpeed devClass }
      let d := { d with
        busNum := if devClass.busNum ≠ "" then toInt devClass.busNum else d.busNum
        ptpDevNum := if devClass.devNumber ≠ "" then toInt devClass.devNumber else d.ptpDevNum }
      { d with toDevice := d.toDevice.setDeviceInfo env devClass }
    else d
  if d.deviceNum ≠ 0 ∧ d.busNum ≠ 0 then
    let m := ptpMount env s d
    ⟨m.state, m.obj, ()⟩
  else ⟨s, d, ()⟩

/-- `PTPDevice::eject` -/
def eject (env : Env) (s : Sys) (d : PTPDevice) : Out PTPDevice PdmDevStatus :=
  let u := ptpUmount env s d
  if u.ret = .success then ⟨u.state, { u.obj with errorReason := .ejected }, .success⟩
  else ⟨u.state, u.obj, .ejectFail⟩

/-- `PTPDevice::resumeRequest` -/
def resumeRequest (d : PTPDevice) : PTPDevice :=
  { d with isPowerOnConnect := true, powerStatus := true }

end PTPDevice

end Pdm
