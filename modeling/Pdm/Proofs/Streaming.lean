/-
How a streaming device comes up.

`comesUp` says, from the environment and the device alone, whether the mount that an add
event tries will succeed; a handler lists the device exactly then.  A camera may be
mounted all the same: the helper has mounted it, and the check of its directories has
failed.
-/
import Pdm.Proofs.Removal

namespace Pdm

/-- `PdmUtils::createDir` will answer yes. -/
def Env.dirReady (env : Env) (path : String) : Bool :=
  path ≠ "" && (env.isDirectory path || env.createDir path)

@[simp] theorem Sys.createDir_fst (env : Env) (s : Sys) (path : String) :
    (s.createDir env path).1 = env.dirReady path := by
  unfold Sys.createDir Env.dirReady
  by_cases hpath : path = ""
  · simp [hpath]
  · cases env.isDirectory path <;> simp [hpath]

theorem Env.dirReady_ne_empty {env : Env} {path : String} (h : env.dirReady path = true) :
    path ≠ "" := by
  rintro rfl
  exact absurd h (by simp [Env.dirReady])

/-! ### `MTPDevice` -/

namespace MTPDevice

/-- The arguments of the mount helper. -/
def mountArgs (d : MTPDevice) (mtpDeviceName : String) : List String :=
  MTP_MOUNT_COMMAND ++ ["/dev/" ++ mtpDeviceName, d.mountName]

/-- `mtpMount` will succeed. -/
def comesUp (env : Env) (d : MTPDevice) (mtpDeviceName : String) : Bool :=
  mtpDeviceName ≠ "" && env.dirReady d.mountName
    && env.runCommand (d.mountArgs mtpDeviceName) = 0

theorem comesUp_mountName {env : Env} {d : MTPDevice} {mtpDeviceName : String}
    (h : d.comesUp env mtpDeviceName = true) : d.mountName ≠ "" := by
  unfold comesUp at h
  simp only [Bool.and_eq_true] at h
  exact Env.dirReady_ne_empty h.1.2

variable (env : Env) (s : Sys) (d : MTPDevice) (devClass : DeviceClass)

@[simp] theorem setDeviceInfo_address : (setDeviceInfo env d devClass).address = d.address := by
  unfold setDeviceInfo
  dsimp only
  rw [Device.setDeviceInfo_address]
  split
  · split <;> exact Device.setSpeed_address ..
  · rfl

@[simp] theorem setDeviceInfo_node : (setDeviceInfo env d devClass).node = d.node := by
  unfold setDeviceInfo
  dsimp only
  rw [Device.setDeviceInfo_node]
  split
  · split <;> exact Device.setSpeed_node ..
  · rfl

variable {mtpDeviceName : String}

theorem mtpMount_up (h : d.comesUp env mtpDeviceName = true) :
    (mtpMount env s d mtpDeviceName).obj = { d with errorReason := .nothing, isMounted := true } ∧
      (mtpMount env s d mtpDeviceName).ret = .success ∧
      (mtpMount env s d mtpDeviceName).state.mounted = insert d.mountName s.mounted ∧
      (mtpMount env s d mtpDeviceName).state.next = s.next ∧
      (mtpMount env s d mtpDeviceName).state.notables = s.notables := by
  unfold comesUp at h
  simp only [Bool.and_eq_true, decide_eq_true_eq, ne_eq] at h
  obtain ⟨⟨hname, hdir⟩, hexit⟩ := h
  have hmount := Env.dirReady_ne_empty hdir
  obtain ⟨hret, hmounted⟩ := Sys.mountHelper_eq env (s.createDir env d.mountName).2
    (d.mountArgs mtpDeviceName) d.mountName
  unfold mountArgs at hexit hret hmounted
  unfold mtpMount mountDevice
  rw [if_pos ⟨hname, hmount⟩]
  simp only [Sys.createDir_fst, hdir, if_true]
  rw [hret, hexit]
  refine ⟨rfl, rfl, ?_, ?_, ?_⟩
  · simpa [hexit] using hmounted
  · simp
  · simp

/-- A mount that fails deletes the directory it was to use, if it got as far. -/
theorem mtpMount_down (h : d.comesUp env mtpDeviceName = false) :
    (mtpMount env s d mtpDeviceName).obj = d ∧
      (mtpMount env s d mtpDeviceName).ret = .umountFail ∧
      (mtpMount env s d mtpDeviceName).state.mounted = s.mounted ∧
      (mtpMount env s d mtpDeviceName).state.next = s.next ∧
      ((mtpMount env s d mtpDeviceName).state.notables = s.notables ∨
        (mtpMount env s d mtpDeviceName).state.notables =
          s.notables ++ [⟨.removeDirRecursive d.rootPath, s.mounted⟩]) := by
  unfold mtpMount
  by_cases hgiven : mtpDeviceName ≠ "" ∧ d.mountName ≠ ""
  · rw [if_pos hgiven]
    dsimp only
    rw [Sys.createDir_fst]
    cases hdir : env.dirReady d.mountName with
    | false => simp [hdir]
    | true =>
      obtain ⟨hret, hmounted⟩ := Sys.mountHelper_eq env (s.createDir env d.mountName).2
        (d.mountArgs mtpDeviceName) d.mountName
      have hexit : env.runCommand (d.mountArgs mtpDeviceName) ≠ 0 := by
        intro hexit
        unfold comesUp at h
        simp [hgiven.1, hdir, hexit] at h
      rw [if_neg hexit] at hmounted
      unfold mountArgs at hexit hret hmounted
      unfold mountDevice
      simp [hret, hexit, hmounted]
  · rw [if_neg hgiven]
    exact ⟨rfl, rfl, rfl, rfl, Or.inl rfl⟩

end MTPDevice

/-! ### `PTPDevice` -/

namespace PTPDevice

/-- A camera as the event describes it, not mounted yet. -/
def described (env : Env) (d : PTPDevice) (devClass : DeviceClass) : PTPDevice :=
  if devClass.devType = USB_DEVICE then
    { d with
      toDevice := { d.toDevice.setSpeed devClass with
        busNum := if devClass.busNum ≠ "" then toInt devClass.busNum else d.busNum
        }.setDeviceInfo env devClass
      ptpDevNum := if devClass.devNumber ≠ "" then toInt devClass.devNumber else d.ptpDevNum }
  else d

/-- A camera with the directory it is to be mounted at. -/
def placed (d : PTPDevice) : PTPDevice :=
  { d with
    rootPath := d.rootPath ++ d.dirName
    mountName := d.rootPath ++ d.dirName ++ "/" ++ d.dirName
    driveName := d.dirName }

/-- The arguments of the mount helper. -/
def mountArgs (d : PTPDevice) : List String :=
  PTP_MOUNT_COMMAND ++
    ["--port=usb:" ++ threeDigits d.busNum ++ "," ++ threeDigits d.ptpDevNum, d.mountName]

/-- The mount helper will mount the camera. -/
def helperMounts (env : Env) (d : PTPDevice) : Bool :=
  env.dirReady d.mountName && env.runCommand d.mountArgs = 0

/-- A mount is tried on the camera. -/
def isNumbered (d : PTPDevice) : Prop := (d.deviceNum ≠ 0 ∧ d.busNum ≠ 0) ∧ d.rootPath ≠ ""

instance (d : PTPDevice) : Decidable d.isNumbered := inferInstanceAs (Decidable (_ ∧ _))

/-- The camera will be mounted and there will be something in its first directory. -/
def comesUp (env : Env) (d : PTPDevice) : Bool :=
  decide d.isNumbered && d.placed.helperMounts env && checkDirectory env d.placed.mountName

variable (env : Env) (s : Sys) (d : PTPDevice) (devClass : DeviceClass)

theorem setDeviceInfo_eq :
    setDeviceInfo env s d devClass =
      if (described env d devClass).isNumbered then
        ⟨(ptpMount env s (described env d devClass)).state,
          (ptpMount env s (described env d devClass)).obj, ()⟩
      else ⟨s, described env d devClass, ()⟩ := by
  have hinfo : (if devClass.devType = USB_DEVICE then
        let d := { d with toDevice := d.toDevice.setSpeed devClass }
        let d := { d with
          busNum := if devClass.busNum ≠ "" then toInt devClass.busNum else d.busNum
          ptpDevNum := if devClass.devNumber ≠ "" then toInt devClass.devNumber else d.ptpDevNum }
        { d with toDevice := d.toDevice.setDeviceInfo env devClass }
      else d) = described env d devClass := by
    unfold described
    split
    · unfold Device.setSpeed
      split <;> rfl
    · rfl
  unfold setDeviceInfo
  rw [hinfo]
  dsimp only
  by_cases hnum : (described env d devClass).deviceNum ≠ 0 ∧ (described env d devClass).busNum ≠ 0
  · rw [if_pos hnum]
    by_cases hroot : (described env d devClass).rootPath = ""
    · rw [if_neg fun h : (described env d devClass).isNumbered => h.2 hroot]
      simp [ptpMount, hroot]
    · rw [if_pos (show (described env d devClass).isNumbered from ⟨hnum, hroot⟩)]
  · rw [if_neg hnum, if_neg fun h : (described env d devClass).isNumbered => hnum h.1]

/-- What a mount that is tried leaves. -/
theorem ptpMount_eq (hroot : d.rootPath ≠ "") :
    (ptpMount env s d).obj =
        (if d.placed.helperMounts env && checkDirectory env d.placed.mountName then
          { d.placed with isMounted := true, errorReason := .nothing, driveStatus := .mountOk }
        else { d.placed with driveStatus := .mountNotOk }) ∧
      (ptpMount env s d).state.mounted =
        (if d.placed.helperMounts env then insert d.placed.mountName s.mounted else s.mounted) ∧
      (ptpMount env s d).state.next = s.next ∧
      (ptpMount env s d).state.notables = s.notables := by
  obtain ⟨hret, hmounted⟩ := Sys.mountHelper_eq env (s.createDir env d.placed.mountName).2
    d.placed.mountArgs d.placed.mountName
  have hstep : ptpMount env s d =
      let dir := s.createDir env d.placed.mountName
      let mnt := if dir.1 then mountDevice env dir.2 d.placed else dir
      if mnt.1 then
        ⟨mnt.2, { d.placed with isMounted := true, errorReason := .nothing, driveStatus := .mountOk },
          .success⟩
      else ⟨mnt.2, { d.placed with driveStatus := .mountNotOk }, .umountFail⟩ := by
    unfold ptpMount
    rw [if_neg hroot]
    rfl
  rw [hstep]
  dsimp only
  rw [Sys.createDir_fst]
  unfold helperMounts
  cases hdir : env.dirReady d.placed.mountName with
  | false => simp [hdir]
  | true =>
    unfold mountDevice
    by_cases hexit : env.runCommand d.placed.mountArgs = 0
    · rw [if_pos hexit] at hmounted
      unfold mountArgs at hexit hret hmounted
      cases checkDirectory env d.placed.mountName with
      | false => simp [mountArgs, hret, hexit, hmounted]
      | true => simp [mountArgs, hret, hexit, hmounted]
    · rw [if_neg hexit] at hmounted
      unfold mountArgs at hexit hret hmounted
      simp [mountArgs, hret, hexit, hmounted]

end PTPDevice

end Pdm
