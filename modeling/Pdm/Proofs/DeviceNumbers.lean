/-
The numbers devices are ejected by.

A device number is read off the event of the whole device; a further card slot takes ten
times the number of its reader and adds what its `ID_INSTANCE` says.  Only uevents change
numbers: they give one to the device that is told of the event, or to a media player or a
camera that comes up.  So the numbers stay distinct as long as that one is not in use, and
as long as they are distinct an eject finds its device.
-/
import Pdm.Proofs.WorldSteps

namespace Pdm

open Visit (visit)

/-! ### Numbers of a list -/

/-- The numbers of a list. -/
def deviceNums {α : Type} [IDevice α] (l : List α) : List Int := l.map fun d => (base d).deviceNum

section Lists

variable {α : Type} [IDevice α] {l : List α} {d e : α}

@[simp] theorem deviceNums_append (l m : List α) :
    deviceNums (l ++ m) = deviceNums l ++ deviceNums m :=
  List.map_append

@[simp] theorem deviceNums_singleton (d : α) : deviceNums [d] = [(base d).deviceNum] := rfl

/-- A number that comes at the end of one handler's list. -/
theorem nums_snoc_perm (nums others : List Int) (n : Int) :
    List.Perm (nums ++ [n] ++ others) (n :: (nums ++ others)) := by
  rw [List.append_assoc, List.singleton_append]
  exact List.perm_middle

theorem mem_deviceNums {n : Int} : n ∈ deviceNums l ↔ ∃ d ∈ l, (base d).deviceNum = n :=
  List.mem_map

theorem deviceNums_removePointer : List.Sublist (deviceNums (removePointer l d)) (deviceNums l) :=
  List.filter_sublist.map _

/-- The device written back has a number of its own; the rest of the list keeps theirs. -/
theorem deviceNums_writeBack (hnodup : (l.map fun d => (base d).address).Nodup) (hd : d ∈ l)
    (he : (base e).address = (base d).address) :
    List.Perm (deviceNums (writeBack l e))
      ((base e).deviceNum :: deviceNums (removePointer l d)) := by
  obtain ⟨as, bs, -, htake, hput⟩ := Keyed.take_split (fun d => (base d).address) hnodup hd
  have hwrite : writeBack l e = as ++ e :: bs := hput e he
  have hremove : removePointer l d = as ++ bs := htake
  rw [hwrite, hremove]
  unfold deviceNums
  rw [List.map_append, List.map_cons, List.map_append]
  exact List.perm_middle

/-- The device written back has the number it had. -/
theorem deviceNums_writeBack_same (hnodup : (l.map fun d => (base d).address).Nodup) (hd : d ∈ l)
    (he : (base e).address = (base d).address) (hnum : (base e).deviceNum = (base d).deviceNum) :
    deviceNums (writeBack l e) = deviceNums l :=
  Keyed.map_put (fun d => (base d).address) (fun d => (base d).deviceNum) hnodup hd he hnum

/-- With distinct numbers a lookup finds the device that has the number. -/
theorem getDeviceWithNum_listed (hnodup : (deviceNums l).Nodup) (hd : d ∈ l) :
    getDeviceWithNum l (base d).deviceNum = some d := by
  unfold getDeviceWithNum
  cases hfound : l.find? fun x => (base x).deviceNum = (base d).deviceNum with
  | none =>
    have hmissed := List.find?_eq_none.mp hfound d hd
    exact absurd hmissed (by simp)
  | some x =>
    have hnum := List.find?_some hfound
    rw [decide_eq_true_eq] at hnum
    rw [List.inj_on_of_nodup_map hnodup (List.mem_of_find?_eq_some hfound) hd hnum]

theorem getDeviceWithNum_unlisted {n : Int} (h : n ∉ deviceNums l) : getDeviceWithNum l n = none := by
  refine List.find?_eq_none.mpr fun x hx => ?_
  rw [decide_eq_true_eq]
  intro hnum
  exact h (mem_deviceNums.mpr ⟨x, hx, hnum⟩)

/-- A device with another number is not the one that is written back. -/
theorem mem_writeBack_of_num (hnodup : (l.map fun d => (base d).address).Nodup) (hd : d ∈ l)
    (he : (base e).address = (base d).address) {x : α} (hx : x ∈ l)
    (hnum : (base x).deviceNum ≠ (base d).deviceNum) : x ∈ writeBack l e := by
  refine List.mem_map.mpr ⟨x, hx, if_neg fun haddress => ?_⟩
  have hxd : x = d := List.inj_on_of_nodup_map hnodup hx hd (haddress.trans he)
  exact hnum (by rw [hxd])

/-- An eject changes no number. -/
theorem streamingReply_nums (hnodup : (l.map fun d => (base d).address).Nodup)
    {eject : Sys → α → Out α PdmDevStatus}
    (heject : ∀ s d, (base (eject s d).obj).address = (base d).address ∧
      (base (eject s d).obj).deviceNum = (base d).deviceNum)
    (s : Sys) (deviceNumber : Int) (deviceType : DeviceEventType) :
    deviceNums (streamingReply s l deviceNumber deviceType eject).obj = deviceNums l := by
  unfold streamingReply
  cases hfound : getDeviceWithNum l deviceNumber with
  | none => rfl
  | some d =>
    obtain ⟨haddress, hnum⟩ := heject s d
    exact deviceNums_writeBack_same hnodup (List.mem_of_find?_eq_some hfound) haddress hnum

end Lists

/-! ### Storage devices -/

namespace StorageDevice

/-- The number a device has after an event. -/
def numberAfter (d : StorageDevice) (devClass : DeviceClass) : Int :=
  if d.isSdCardRemoved then d.deviceNum
  else
    match sMapUsbDeviceType devClass.devType with
    | .typeDevUsb => if devClass.devNumber ≠ "" then toInt devClass.devNumber else d.deviceNum
    | .typeDevPartition => d.deviceNum
    | .typeDevDisk =>
      if d.devicePath = "" ∧ devClass.idInstance ≠ "" ∧ instanceNumber devClass.idInstance ≠ "" then
        d.deviceNum + toInt (instanceNumber devClass.idInstance)
      else d.deviceNum

variable (env : Env) (s : Sys) (d : StorageDevice) (devClass : DeviceClass)

theorem deviceNum_of_core {d e : StorageDevice} (h : d.core = e.core) : d.deviceNum = e.deviceNum :=
  congrArg (·.deviceNum) h

theorem updateDeviceInfo_deviceNum :
    (updateDeviceInfo env d devClass).deviceNum =
      if devClass.devNumber ≠ "" then toInt devClass.devNumber else d.deviceNum := by
  unfold updateDeviceInfo Device.setSpeed
  dsimp only
  split
  · split <;> rfl
  · split <;> rfl

theorem updateMultiSdCard_deviceNum :
    (updateMultiSdCard env d devClass).deviceNum =
      if d.devicePath = "" ∧ devClass.idInstance ≠ "" ∧ instanceNumber devClass.idInstance ≠ "" then
        d.deviceNum + toInt (instanceNumber devClass.idInstance)
      else d.deviceNum := by
  unfold updateMultiSdCard
  by_cases hpath : d.devicePath = ""
  · simp only [hpath, if_true, true_and]
  · simp only [hpath, if_false, false_and]

theorem setDeviceInfo_deviceNum :
    (setDeviceInfo env s d devClass).obj.deviceNum = numberAfter d devClass := by
  rw [deviceNum_of_core (setDeviceInfo_core env s d devClass)]
  unfold informed numberAfter
  split
  · rfl
  · cases sMapUsbDeviceType devClass.devType with
    | typeDevUsb => exact updateDeviceInfo_deviceNum env d devClass
    | typeDevPartition => rfl
    | typeDevDisk =>
      cases getDeviceAction devClass.action with
      | usbDevAdd => exact updateMultiSdCard_deviceNum env (d.nameDisk devClass) devClass
      | _ => exact updateMultiSdCard_deviceNum env d devClass

end StorageDevice

/-- The number the event of a whole device brings. -/
def DeviceClass.number (devClass : DeviceClass) : Int :=
  if devClass.devNumber ≠ "" then toInt devClass.devNumber else 0

/-! ### Media players and cameras -/

namespace MTPDevice

variable (env : Env) (s : Sys) (d : MTPDevice)

theorem setDeviceInfo_deviceNum (devClass : DeviceClass) :
    (d.setDeviceInfo env devClass).deviceNum =
      if devClass.devNumber ≠ "" then toInt devClass.devNumber else d.deviceNum := by
  unfold setDeviceInfo Device.setSpeed
  dsimp only
  by_cases husb : devClass.devType = USB_DEVICE
  · rw [if_pos husb]
    by_cases hspeed : devClass.speed = "" <;> by_cases hlinks : devClass.devLinks = "" <;>
      simp [hspeed, hlinks, Device.setDeviceInfo]
  · rw [if_neg husb]
    rfl

theorem mtpMount_deviceNum (name : String) :
    (d.mtpMount env s name).obj.deviceNum = d.deviceNum := by
  cases hup : d.comesUp env name with
  | true => rw [(mtpMount_up env s d hup).1]
  | false => rw [(mtpMount_down env s d hup).1]

theorem eject_keeps :
    (d.eject env s).obj.address = d.address ∧ (d.eject env s).obj.deviceNum = d.deviceNum := by
  have humount : (d.mtpUmount env s).obj.toDevice = d.toDevice := by rw [(d.mtpUmount_keeps env s).1]
  unfold eject
  dsimp only
  split
  · exact ⟨congrArg (·.address) humount, congrArg (·.deviceNum) humount⟩
  · exact ⟨congrArg (·.address) humount, congrArg (·.deviceNum) humount⟩

end MTPDevice

namespace MTPDeviceHandler

variable (cfg : Config) (env : Env) (s : Sys) (h : MTPDeviceHandler)

/-- A media player that is new in the list has the number of the event. -/
theorem HandlerEvent_number (devClass : DeviceClass) {d : MTPDevice}
    (hd : d ∈ (h.HandlerEvent cfg env s devClass).obj.mtpList) :
    d ∈ h.mtpList ∨ d.deviceNum = devClass.number := by
  have hadd : d ∈ (h.addMTPDevice cfg env s devClass).obj.mtpList →
      d ∈ h.mtpList ∨ d.deviceNum = devClass.number := by
    intro hd
    unfold addMTPDevice at hd
    split at hd
    · exact Or.inl hd
    · dsimp only at hd
      split at hd
      · rcases List.mem_append.mp hd with hd | hd
        · exact Or.inl hd
        · right
          rw [List.mem_singleton.mp hd, MTPDevice.mtpMount_deviceNum,
            MTPDevice.setDeviceInfo_deviceNum]
          rfl
      · exact Or.inl hd
  unfold HandlerEvent ProcessMTPDevice at hd
  split at hd
  · split at hd
    · exact hadd hd
    · split at hd
      · exact Or.inl hd
      · exact Or.inl (List.mem_filter.mp hd).1
    · exact Or.inl hd
  · exact Or.inl hd

theorem HandlerCommand_nums (hnodup : (h.mtpList.map fun d => (base d).address).Nodup)
    (cmdtypes : CommandType) :
    deviceNums (h.HandlerCommand env s cmdtypes).obj.mtpList = deviceNums h.mtpList := by
  cases cmdtypes with
  | eject deviceNumber =>
    exact streamingReply_nums hnodup (fun s d => d.eject_keeps env s) s deviceNumber .mtpDevice
  | _ => rfl

theorem HandlePluginEvent_nums (eventType : PluginEvent) :
    deviceNums (h.HandlePluginEvent env s eventType).obj.mtpList = deviceNums h.mtpList := by
  have humount : deviceNums (h.umountAllDrive env s).obj.mtpList = deviceNums h.mtpList :=
    Visit.visit_map (g := fun d : MTPDevice => d.deviceNum)
      (fun s d => by rw [(d.mtpUmount_keeps env s).1]) h.mtpList s
  cases eventType with
  | powerProcessRequestUmountAll => exact humount
  | powerProcessPrepareSuspend => exact humount
  | powerProcessRequestSuspend => exact List.map_map
  | powerProcessPrepareResume => exact List.map_map
  | _ => rfl

end MTPDeviceHandler

namespace PTPDevice

variable (env : Env) (s : Sys) (d : PTPDevice)

theorem ptpMount_deviceNum : (d.ptpMount env s).obj.deviceNum = d.deviceNum := by
  by_cases hroot : d.rootPath = ""
  · unfold ptpMount
    rw [if_pos hroot]
  · rw [(ptpMount_eq env s d hroot).1]
    split
    · rfl
    · rfl

theorem described_deviceNum {devClass : DeviceClass} (husb : devClass.devType = USB_DEVICE) :
    (d.described env devClass).deviceNum =
      if devClass.devNumber ≠ "" then toInt devClass.devNumber else d.deviceNum := by
  unfold described Device.setSpeed
  rw [if_pos husb]
  by_cases hspeed : devClass.speed = ""
  · simp [hspeed, Device.setDeviceInfo]
  · simp [hspeed, Device.setDeviceInfo]

/-- A camera is mounted only once it has the number of a whole device's event. -/
theorem setDeviceInfo_number {devClass : DeviceClass} (hflag : d.isMounted = false)
    (hzero : d.deviceNum = 0) (hup : (d.setDeviceInfo env s devClass).obj.isMounted = true) :
    (d.setDeviceInfo env s devClass).obj.deviceNum = devClass.number := by
  by_cases husb : devClass.devType = USB_DEVICE
  · have hnum := d.described_deviceNum env husb
    rw [hzero] at hnum
    rw [setDeviceInfo_eq]
    split
    · exact (ptpMount_deviceNum env s (d.described env devClass)).trans hnum
    · exact hnum
  · have hsame : d.setDeviceInfo env s devClass = ⟨s, d, ()⟩ := by
      unfold setDeviceInfo
      rw [if_neg husb, if_neg (by simp [hzero])]
    rw [hsame, hflag] at hup
    exact absurd hup (by simp)

theorem eject_keeps :
    (d.eject env s).obj.address = d.address ∧ (d.eject env s).obj.deviceNum = d.deviceNum := by
  have humount : (d.ptpUmount env s).obj.toDevice = d.toDevice := by rw [(d.ptpUmount_keeps env s).1]
  unfold eject
  dsimp only
  split
  · exact ⟨congrArg (·.address) humount, congrArg (·.deviceNum) humount⟩
  · exact ⟨congrArg (·.address) humount, congrArg (·.deviceNum) humount⟩

end PTPDevice

namespace PTPDeviceHandler

variable (cfg : Config) (env : Env) (s : Sys) (h : PTPDeviceHandler)

/-- A camera that is new in the list has the number of the event. -/
theorem HandlerEvent_number (devClass : DeviceClass) {d : PTPDevice}
    (hd : d ∈ (h.HandlerEvent cfg env s devClass).obj.sList) :
    d ∈ h.sList ∨ d.deviceNum = devClass.number := by
  have hadd : d ∈ (h.ProcessPTPDevice cfg env s devClass).obj.sList →
      d ∈ h.sList ∨ d.deviceNum = devClass.number := by
    intro hd
    unfold ProcessPTPDevice addPTPDevice at hd
    split at hd
    · dsimp only at hd
      split at hd
      · rename_i hup
        rcases List.mem_append.mp hd with hd | hd
        · exact Or.inl hd
        · rw [List.mem_singleton.mp hd]
          exact Or.inr (PTPDevice.setDeviceInfo_number env s.alloc _ rfl rfl hup)
      · exact Or.inl hd
    · split at hd
      · exact Or.inl hd
      · exact Or.inl (List.mem_filter.mp hd).1
    · exact Or.inl hd
  unfold HandlerEvent at hd
  split at hd
  · exact hadd hd
  · split at hd
    · exact Or.inl hd
    · split at hd
      · exact hadd hd
      · split at hd
        · exact hadd hd
        · exact Or.inl hd

theorem HandlerCommand_nums (hnodup : (h.sList.map fun d => (base d).address).Nodup)
    (cmdtypes : CommandType) :
    deviceNums (h.HandlerCommand env s cmdtypes).obj.sList = deviceNums h.sList := by
  cases cmdtypes with
  | eject deviceNumber =>
    exact streamingReply_nums hnodup (fun s d => d.eject_keeps env s) s deviceNumber .ptpDevice
  | _ => rfl

theorem HandlePluginEvent_nums (eventType : PluginEvent) :
    deviceNums (h.HandlePluginEvent env s eventType).obj.sList = deviceNums h.sList := by
  have humount : deviceNums (h.umountAllDrive env s).obj.sList = deviceNums h.sList :=
    Visit.visit_map (g := fun d : PTPDevice => d.deviceNum) (fun _ _ => rfl) h.sList s
  cases eventType with
  | powerProcessRequestUmountAll => exact humount
  | powerProcessPrepareSuspend => exact humount
  | powerProcessRequestSuspend => exact List.map_map
  | powerProcessPrepareResume => exact List.map_map
  | _ => rfl

end PTPDeviceHandler

/-! ### Uevents -/

/-- What an event makes of the numbers of the storage devices, beside those of others. -/
theorem StorageDeviceHandler.EventOutcome.nums_iff {cfg : Config} {env : Env} {s t : Sys}
    {h : StorageDeviceHandler} {devClass : DeviceClass} {l : List StorageDevice} {others : List Int}
    (ho : EventOutcome cfg env s h devClass t l) (hwf : WellFormed s h.storageList)
    (hnodup : (deviceNums h.storageList ++ others).Nodup) :
    (deviceNums l ++ others).Nodup ↔
      ∀ d, (target cfg s.next h devClass).told = some d →
        d.numberAfter devClass ∉ deviceNums (removePointer h.storageList d) ++ others := by
  cases ho with
  | ignored htarget _ hl =>
    rw [hl, htarget]
    exact iff_of_true hnodup fun d hd => absurd hd (by simp [Target.told])
  | handed d htarget hmem _ hl =>
    have hperm := deviceNums_writeBack hwf.nodup hmem (d.setDeviceInfo_address env s devClass)
    have hrest : (deviceNums (removePointer h.storageList d) ++ others).Nodup :=
      hnodup.sublist (deviceNums_removePointer.append_right _)
    rw [hl, (hperm.append_right others).nodup_iff, List.cons_append, List.nodup_cons, htarget]
    have hnum : (base (d.setDeviceInfo env s devClass).obj).deviceNum = d.numberAfter devClass :=
      d.setDeviceInfo_deviceNum env s devClass
    rw [hnum]
    constructor
    · intro hafter e he
      rw [← Option.some.inj he]
      exact hafter.1
    · intro hafter
      exact ⟨hafter d rfl, hrest⟩
  | created reader htarget _ hl =>
    generalize hd : newDevice cfg s.next devClass reader = d at *
    have hnum : (base (d.setDeviceInfo env s.alloc devClass).obj).deviceNum =
        d.numberAfter devClass :=
      d.setDeviceInfo_deviceNum env s.alloc devClass
    have hremove : removePointer h.storageList d = h.storageList := by
      refine List.filter_eq_self.mpr fun x hx => decide_eq_true ?_
      have hgiven : (base x).address < s.next := hwf.given x hx
      have haddress : (base d).address = s.next := by
        rw [← hd]
        exact newDevice_address ..
      omega
    rw [hl, deviceNums_append, deviceNums_singleton, hnum, (nums_snoc_perm _ _ _).nodup_iff,
      List.nodup_cons, htarget]
    constructor
    · intro hafter e he
      rw [← Option.some.inj he, hremove]
      exact hafter.1
    · intro hafter
      have hself := hafter d rfl
      rw [hremove] at hself
      exact ⟨hself, hnodup⟩
  | dropped d hremove _ _ hl =>
    have hnobody : target cfg s.next h devClass = .nobody := by
      unfold target takes
      rw [if_pos (by simp [hremove])]
    rw [hl, hnobody]
    exact iff_of_true (hnodup.sublist (deviceNums_removePointer.append_right _))
      fun d hd => absurd hd (by simp [Target.told])

/-- What an event makes of all numbers, when those of a streaming handler's devices and of the
other devices are told apart. -/
theorem StreamOutcome.nums_iff {env : Env} {s t : Sys} {l l' : List Storage}
    {joining : Option Joining} {leaving : Option Storage} {n : Int} {nums nums' others : List Int}
    (ho : StreamOutcome env s l joining leaving t l') (hgiven : ∀ d ∈ l, d.address < s.next)
    (hnew : ∀ d ∈ l', d ∈ l ∨ d.deviceNum = n) (hnums : nums.Perm (deviceNums l ++ others))
    (hnums' : nums'.Perm (deviceNums l' ++ others)) (hnodup : nums.Nodup) :
    nums'.Nodup ↔ ∀ j, joining = some j → j.listed = true → n ∉ nums := by
  rw [hnums'.nodup_iff, hnums.mem_iff]
  rw [hnums.nodup_iff] at hnodup
  cases ho with
  | ignored hjoin _ _ hl =>
    rw [hl, hjoin]
    exact iff_of_true hnodup fun j hj => absurd hj (by simp)
  | joined j e hjoin hup haddr hseat _ _ _ _ _ hl =>
    have he : (base e).deviceNum = n := by
      refine (hnew e (by rw [hl]; simp)).resolve_left fun hmem => ?_
      have hlt := hgiven e hmem
      have haddress : e.address = s.next := (Storage.seat_eq_iff.mp hseat).1.trans haddr
      omega
    rw [hl, deviceNums_append, deviceNums_singleton, he, (nums_snoc_perm _ _ _).nodup_iff,
      List.nodup_cons]
    constructor
    · intro hafter j' _ _
      exact hafter.1
    · intro hafter
      exact ⟨hafter j hjoin hup, hnodup⟩
  | failed j hjoin hdown _ _ _ _ hl =>
    rw [hl]
    refine iff_of_true hnodup fun j' hj' hup => ?_
    rw [hjoin, Option.some.injEq] at hj'
    rw [← hj', hdown] at hup
    exact absurd hup (by simp)
  | left d hjoin _ _ _ _ _ hl =>
    rw [hl, hjoin]
    exact iff_of_true (hnodup.sublist (deviceNums_removePointer.append_right _))
      fun j hj => absurd hj (by simp)

theorem WithinList.deviceNums {s t : Sys} {l l' : List StorageDevice} (h : WithinList s l t l')
    (hwf : WellFormed s l) : deviceNums l' = deviceNums l := by
  refine Keyed.map_eq_of_each (fun d : StorageDevice => d.address) _ hwf.nodup h.listed
    fun e he => ?_
  obtain ⟨d, hd, hcore, -, -⟩ := h.each e he
  exact ⟨d, hd, StorageDevice.address_of_core hcore, StorageDevice.deviceNum_of_core hcore⟩

namespace World

/-- The numbers of all devices that can be ejected. -/
def numbers (w : World) : List Int :=
  deviceNums w.storage.storageList ++ (deviceNums w.mtp.mtpList ++ deviceNums w.ptp.sList)

/-- The number an event gives to a device is not one of the others'. -/
def NumberFits (cfg : Config) (w : World) (i : Env × Input) : Prop :=
  match i.2 with
  | .uevent .storage devClass =>
    ∀ d, (StorageDeviceHandler.target cfg w.sys.next w.storage devClass).told = some d →
      d.numberAfter devClass ∉ deviceNums (removePointer w.storage.storageList d) ++
        (deviceNums w.mtp.mtpList ++ deviceNums w.ptp.sList)
  | .uevent kind devClass =>
    ∀ j, w.joining cfg i.1 devClass kind = some j → j.listed = true → devClass.number ∉ w.numbers
  | _ => True

variable {cfg : Config} {env : Env} {w : World}

theorem deviceNums_streams :
    deviceNums (w.streams .mtp) = deviceNums w.mtp.mtpList ∧
      deviceNums (w.streams .ptp) = deviceNums w.ptp.sList :=
  ⟨List.map_map, List.map_map⟩

theorem numbers_mtp :
    List.Perm w.numbers
      (deviceNums (w.streams .mtp) ++ (deviceNums w.storage.storageList ++ deviceNums w.ptp.sList)) := by
  rw [deviceNums_streams.1]
  unfold numbers
  rw [← List.append_assoc, ← List.append_assoc]
  exact List.perm_append_comm.append_right _

theorem numbers_ptp :
    List.Perm w.numbers
      (deviceNums (w.streams .ptp) ++ (deviceNums w.storage.storageList ++ deviceNums w.mtp.mtpList)) := by
  rw [deviceNums_streams.2]
  unfold numbers
  rw [← List.append_assoc]
  exact List.perm_append_comm

/-- A streaming device that is new in its list has the number of the event. -/
theorem streams_number (kind : HandlerKind) (devClass : DeviceClass) {d : Storage}
    (hd : d ∈ (w.HandlerEvent cfg env kind devClass).1.streams kind) :
    d ∈ w.streams kind ∨ d.deviceNum = devClass.number := by
  cases kind with
  | mtp =>
    obtain ⟨e, he, rfl⟩ := List.mem_map.mp hd
    exact (w.mtp.HandlerEvent_number cfg env w.sys devClass he).imp_left (List.mem_map_of_mem ·)
  | ptp =>
    obtain ⟨e, he, rfl⟩ := List.mem_map.mp hd
    exact (w.ptp.HandlerEvent_number cfg env w.sys devClass he).imp_left (List.mem_map_of_mem ·)
  | _ => exact absurd hd (by simp [streams])

/-- **A uevent**: the numbers stay distinct when the one it gives is not in use. -/
theorem uevent_numbers_iff (hw : w.Addressed) (hnodup : w.numbers.Nodup) (kind : HandlerKind)
    (devClass : DeviceClass) :
    (w.HandlerEvent cfg env kind devClass).1.numbers.Nodup ↔
      w.NumberFits cfg (env, .uevent kind devClass) := by
  cases kind with
  | storage =>
    exact (w.storage.HandlerEvent_outcome cfg env w.sys devClass).nums_iff hw.storage hnodup
  | mtp =>
    have ho := w.mtp.HandlerEvent_outcome cfg env w.sys devClass
    exact ho.nums_iff (hw.given .mtp) (fun _ hd => streams_number .mtp devClass hd) numbers_mtp
      numbers_mtp hnodup
  | ptp =>
    have ho := w.ptp.HandlerEvent_outcome cfg env w.sys devClass
    exact ho.nums_iff (hw.given .ptp) (fun _ hd => streams_number .ptp devClass hd) numbers_ptp
      numbers_ptp hnodup
  | _ => exact iff_of_true hnodup fun j hj => absurd hj (by simp [joining])

theorem command_numbers (hw : w.Addressed) (kind : HandlerKind) (cmdtypes : CommandType) :
    (w.HandlerCommand env kind cmdtypes).1.numbers = w.numbers := by
  cases kind with
  | storage =>
    exact congrArg (· ++ _)
      ((w.storage.HandlerCommand_within env w.sys cmdtypes).deviceNums hw.storage)
  | mtp =>
    refine congrArg (_ ++ ·) (congrArg (· ++ _) ?_)
    exact w.mtp.HandlerCommand_nums env w.sys hw.mtp_nodup cmdtypes
  | ptp =>
    refine congrArg (_ ++ ·) (congrArg (_ ++ ·) ?_)
    exact w.ptp.HandlerCommand_nums env w.sys hw.ptp_nodup cmdtypes
  | _ => rfl

theorem plugin_numbers (hw : w.Addressed) (kind : HandlerKind) (eventType : PluginEvent) :
    (w.handlerPluginEvent env kind eventType).1.numbers = w.numbers := by
  cases kind with
  | storage =>
    exact congrArg (· ++ _)
      ((w.storage.HandlePluginEvent_within env w.sys eventType).deviceNums hw.storage)
  | mtp =>
    exact congrArg (_ ++ ·) (congrArg (· ++ _) (w.mtp.HandlePluginEvent_nums env w.sys eventType))
  | ptp =>
    exact congrArg (_ ++ ·) (congrArg (_ ++ ·) (w.ptp.HandlePluginEvent_nums env w.sys eventType))
  | _ => rfl

/-- Only uevents change numbers. -/
theorem step_numbers (hw : w.Addressed) {input : Input}
    (hinput : ∀ kind devClass, input ≠ .uevent kind devClass) :
    (w.step cfg (env, input)).numbers = w.numbers := by
  have hstorage : ∀ {input : StorageInput}, (∀ devClass, input ≠ .uevent devClass) →
      deviceNums (w.clear.toStorageSystem.deliver cfg env input).storage.storageList =
        deviceNums w.storage.storageList := by
    intro input hinput
    exact (w.clear.toStorageSystem.deliver_within cfg env hinput).deviceNums hw.clear.storage
  cases input with
  | uevent kind devClass => exact absurd rfl (hinput kind devClass)
  | command kind cmdtypes => exact command_numbers hw.clear kind cmdtypes
  | pluginEvent kind eventType => exact plugin_numbers hw.clear kind eventType
  | fsckThread device partition => exact congrArg (· ++ _) (hstorage (by simp))
  | timeout device => exact congrArg (· ++ _) (hstorage (by simp))

/-- **One step.** -/
theorem step_numbers_iff (hw : w.Addressed) (hnodup : w.numbers.Nodup) (i : Env × Input) :
    (w.step cfg i).numbers.Nodup ↔ w.NumberFits cfg i := by
  obtain ⟨env, input⟩ := i
  cases input with
  | uevent kind devClass => exact uevent_numbers_iff hw.clear hnodup kind devClass
  | _ =>
    rw [step_numbers hw (by simp)]
    exact iff_of_true hnodup trivial

/-! ### Ejects -/

/-- The handlers that eject devices. -/
def ejectHandlers : List HandlerKind := [.storage, .mtp, .ptp]

/-- The device is ejected, and that is written back and reported. -/
def ejectOnly (env : Env) (w : World) : Entry → World × CommandResponse
  | .storage d =>
    let r := d.eject env w.sys
    ({ w with
        sys := r.state.notify .storageDevice .unmountAll none
        storage := w.storage.setDevice r.obj }, { result := r.ret })
  | .mtp d =>
    let r := d.eject env w.sys
    ({ w with
        sys := r.state.notify .mtpDevice .umount none
        mtp := { mtpList := writeBack w.mtp.mtpList r.obj } }, { result := r.ret })
  | .ptp d =>
    let r := d.eject env w.sys
    ({ w with
        sys := r.state.notify .ptpDevice .umount none
        ptp := { sList := writeBack w.ptp.sList r.obj } }, { result := r.ret })
  | _ => (w, { result := .deviceNotFound })

/-- An eject acts on the device with its number and on no other one. -/
structure EjectsByNumber (w : World) : Prop where
  acts : ∀ (env : Env) (handlers : List HandlerKind), ∀ kind ∈ ejectHandlers, kind ∈ handlers →
    ∀ e ∈ w.entries kind, HandlePdmCommand env (.eject (base e).deviceNum) w handlers =
      ((w.ejectOnly env e).1, true, some (w.ejectOnly env e).2)
  spares : ∀ (env : Env) (handlers : List HandlerKind) (deviceNumber : Int),
    ∀ kind ∈ ejectHandlers, ∀ e ∈ w.entries kind, (base e).deviceNum ≠ deviceNumber →
      e ∈ (HandlePdmCommand env (.eject deviceNumber) w handlers).1.entries kind

theorem deviceNums_entries :
    deviceNums (w.entries .storage) = deviceNums w.storage.storageList ∧
      deviceNums (w.entries .mtp) = deviceNums w.mtp.mtpList ∧
      deviceNums (w.entries .ptp) = deviceNums w.ptp.sList :=
  ⟨List.map_map, List.map_map, List.map_map⟩

/-- A handler that lists no device with the number leaves the eject to the next one. -/
theorem eject_misses (env : Env) (w : World) {kind : HandlerKind} {deviceNumber : Int}
    (h : kind ∈ ejectHandlers → getDeviceWithNum (w.entries kind) deviceNumber = none) :
    (w.HandlerCommand env kind (.eject deviceNumber)).1 = w ∧
      (w.HandlerCommand env kind (.eject deviceNumber)).2.1 = false := by
  cases kind with
  | storage =>
    have hnone := h (by simp [ejectHandlers])
    change getDeviceWithNum (w.storage.storageList.map Entry.storage) deviceNumber = none at hnone
    rw [getDeviceWithNum_map (f := Entry.storage) fun _ => rfl, Option.map_eq_none_iff] at hnone
    simp [HandlerCommand, StorageDeviceHandler.HandlerCommand, StorageDeviceHandler.eject,
      StorageDeviceHandler.onDevice, hnone]
  | mtp =>
    have hnone := h (by simp [ejectHandlers])
    change getDeviceWithNum (w.mtp.mtpList.map Entry.mtp) deviceNumber = none at hnone
    rw [getDeviceWithNum_map (f := Entry.mtp) fun _ => rfl, Option.map_eq_none_iff] at hnone
    simp [HandlerCommand, MTPDeviceHandler.HandlerCommand, streamingReply, hnone]
  | ptp =>
    have hnone := h (by simp [ejectHandlers])
    change getDeviceWithNum (w.ptp.sList.map Entry.ptp) deviceNumber = none at hnone
    rw [getDeviceWithNum_map (f := Entry.ptp) fun _ => rfl, Option.map_eq_none_iff] at hnone
    simp [HandlerCommand, PTPDeviceHandler.HandlerCommand, streamingReply, hnone]
  | _ => exact ⟨rfl, rfl⟩

/-- A handler that lists a device with the number ejects that one. -/
theorem eject_hits {kind : HandlerKind} (hkind : kind ∈ ejectHandlers) {deviceNumber : Int}
    {e : Entry} (h : getDeviceWithNum (w.entries kind) deviceNumber = some e) :
    w.HandlerCommand env kind (.eject deviceNumber) =
      ((w.ejectOnly env e).1, true, some (w.ejectOnly env e).2) := by
  cases kind with
  | storage =>
    change getDeviceWithNum (w.storage.storageList.map Entry.storage) deviceNumber = some e at h
    rw [getDeviceWithNum_map (f := Entry.storage) fun _ => rfl, Option.map_eq_some_iff] at h
    obtain ⟨d, hd, rfl⟩ := h
    simp [HandlerCommand, StorageDeviceHandler.HandlerCommand, StorageDeviceHandler.eject,
      StorageDeviceHandler.onDevice, hd, ejectOnly]
  | mtp =>
    change getDeviceWithNum (w.mtp.mtpList.map Entry.mtp) deviceNumber = some e at h
    rw [getDeviceWithNum_map (f := Entry.mtp) fun _ => rfl, Option.map_eq_some_iff] at h
    obtain ⟨d, hd, rfl⟩ := h
    simp [HandlerCommand, MTPDeviceHandler.HandlerCommand, streamingReply, hd, ejectOnly]
  | ptp =>
    change getDeviceWithNum (w.ptp.sList.map Entry.ptp) deviceNumber = some e at h
    rw [getDeviceWithNum_map (f := Entry.ptp) fun _ => rfl, Option.map_eq_some_iff] at h
    obtain ⟨d, hd, rfl⟩ := h
    simp [HandlerCommand, PTPDeviceHandler.HandlerCommand, streamingReply, hd, ejectOnly]
  | _ => exact absurd hkind (by simp [ejectHandlers])

theorem numbers_eq : w.numbers = ejectHandlers.flatMap fun kind => deviceNums (w.entries kind) := by
  obtain ⟨hstorage, hmtp, hptp⟩ := deviceNums_entries (w := w)
  simp [ejectHandlers, numbers, hstorage, hmtp, hptp]

/-- No two handlers list devices with one number. -/
theorem numbers_apart (hnodup : w.numbers.Nodup) {kind other : HandlerKind}
    (hkind : kind ∈ ejectHandlers) (hother : other ∈ ejectHandlers) (hne : kind ≠ other) {n : Int}
    (hn : n ∈ deviceNums (w.entries kind)) : n ∉ deviceNums (w.entries other) := by
  rw [numbers_eq, List.nodup_flatMap] at hnodup
  have hsymm : Std.Symm (Function.onFun List.Disjoint fun kind => deviceNums (w.entries kind)) :=
    ⟨fun _ _ h => h.symm⟩
  have hapart : List.Disjoint _ _ := hnodup.2.forall hkind hother hne
  exact fun hn' => hapart hn hn'

/-- With distinct numbers, an eject reaches the device that has the number. -/
theorem eject_acts (hnodup : w.numbers.Nodup) (env : Env) {kind : HandlerKind}
    (hkind : kind ∈ ejectHandlers) {e : Entry} (he : e ∈ w.entries kind) :
    ∀ handlers : List HandlerKind, kind ∈ handlers →
      HandlePdmCommand env (.eject (base e).deviceNum) w handlers =
        ((w.ejectOnly env e).1, true, some (w.ejectOnly env e).2) := by
  have hown : (deviceNums (w.entries kind)).Nodup := by
    rw [numbers_eq, List.nodup_flatMap] at hnodup
    exact hnodup.1 kind hkind
  intro handlers
  induction handlers with
  | nil => intro hmem; exact absurd hmem (by simp)
  | cons head rest ih =>
    intro hmem
    unfold HandlePdmCommand
    dsimp only
    by_cases hhead : head = kind
    · rw [hhead, eject_hits hkind (getDeviceWithNum_listed hown he), if_pos rfl]
    · have hnone : head ∈ ejectHandlers →
          getDeviceWithNum (w.entries head) (base e).deviceNum = none := fun hother =>
        getDeviceWithNum_unlisted (numbers_apart hnodup hkind hother (Ne.symm hhead)
          (mem_deviceNums.mpr ⟨e, he, rfl⟩))
      have hmissed := eject_misses env w hnone
      rw [hmissed.2, hmissed.1, if_neg (by simp)]
      exact ih ((List.mem_cons.mp hmem).resolve_left fun h => hhead h.symm)

/-- Whatever takes a command, only one handler has changed anything. -/
theorem HandlePdmCommand_eject (env : Env) (deviceNumber : Int) (P : World → Prop) (hself : P w)
    (htaken : ∀ kind ∈ ejectHandlers, ∀ e,
      getDeviceWithNum (w.entries kind) deviceNumber = some e → P (w.ejectOnly env e).1) :
    ∀ handlers, P (HandlePdmCommand env (.eject deviceNumber) w handlers).1 := by
  intro handlers
  induction handlers with
  | nil => exact hself
  | cons head rest ih =>
    unfold HandlePdmCommand
    dsimp only
    by_cases hhead : head ∈ ejectHandlers
    · cases hfound : getDeviceWithNum (w.entries head) deviceNumber with
      | none =>
        have hmissed := eject_misses env w fun _ => hfound
        rw [hmissed.2, hmissed.1, if_neg (by simp)]
        exact ih
      | some e =>
        rw [eject_hits hhead hfound, if_pos rfl]
        exact htaken head hhead e hfound
    · have hnone : head ∈ ejectHandlers →
          getDeviceWithNum (w.entries head) deviceNumber = none := fun h => absurd h hhead
      have hmissed := eject_misses env w hnone
      rw [hmissed.2, hmissed.1, if_neg (by simp)]
      exact ih

/-- An eject leaves the devices with other numbers as they are. -/
theorem ejectOnly_spares (hw : w.Addressed) (env : Env) {kind other : HandlerKind} {e x : Entry}
    (hother : other ∈ ejectHandlers) (hx : x ∈ w.entries other) (hkind : kind ∈ ejectHandlers)
    (he : e ∈ w.entries kind) (hnum : (base e).deviceNum ≠ (base x).deviceNum) :
    e ∈ (w.ejectOnly env x).1.entries kind := by
  cases other with
  | storage =>
    obtain ⟨d, hd, rfl⟩ := List.mem_map.mp hx
    cases kind with
    | storage =>
      obtain ⟨y, hy, rfl⟩ := List.mem_map.mp he
      have haddress : (d.eject env w.sys).obj.address = d.address :=
        StorageDevice.address_of_core (d.eject_within env w.sys).core
      exact List.mem_map_of_mem (mem_writeBack_of_num hw.storage.nodup hd haddress hy hnum)
    | _ => exact he
  | mtp =>
    obtain ⟨d, hd, rfl⟩ := List.mem_map.mp hx
    cases kind with
    | mtp =>
      obtain ⟨y, hy, rfl⟩ := List.mem_map.mp he
      exact List.mem_map_of_mem
        (mem_writeBack_of_num hw.mtp_nodup hd (d.eject_keeps env w.sys).1 hy hnum)
    | _ => exact he
  | ptp =>
    obtain ⟨d, hd, rfl⟩ := List.mem_map.mp hx
    cases kind with
    | ptp =>
      obtain ⟨y, hy, rfl⟩ := List.mem_map.mp he
      exact List.mem_map_of_mem
        (mem_writeBack_of_num hw.ptp_nodup hd (d.eject_keeps env w.sys).1 hy hnum)
    | _ => exact he
  | _ => exact absurd hother (by simp [ejectHandlers])

/-- **With distinct numbers, an eject acts on the device with its number and on no other.** -/
theorem ejectsByNumber (hw : w.Addressed) (hnodup : w.numbers.Nodup) : w.EjectsByNumber := by
  refine ⟨fun env handlers kind hkind hmem e he => eject_acts hnodup env hkind he handlers hmem,
    fun env handlers deviceNumber kind hkind e he hnum => ?_⟩
  refine HandlePdmCommand_eject env deviceNumber (fun t => e ∈ t.entries kind) he
    (fun other hother x hfound => ?_) handlers
  have hx : (base x).deviceNum = deviceNumber := by simpa using List.find?_some hfound
  exact ejectOnly_spares hw env hother (List.mem_of_find?_eq_some hfound) hkind he
    (by rwa [hx])

theorem init_numbers : ({} : World).numbers.Nodup := by simp [numbers, deviceNums]

/-- **Device numbers.**  Along a run, no two devices have one number and an eject acts on the
device with its number alone, exactly when every number an event gives is not in use. -/
theorem numbers_distinct_iff (cfg : Config) (is : List (Env × Input)) :
    Runs.StepsAll (step cfg)
        (fun w i => (w.step cfg i).numbers.Nodup ∧ (w.step cfg i).EjectsByNumber) {} is ↔
      Runs.StepsAll (step cfg) (NumberFits cfg) {} is := by
  refine Runs.stepsAll_congr (I := fun w => w.Addressed ∧ w.numbers.Nodup) (fun w i hw hP => ?_)
    (fun w i hw => ?_) ⟨init_addressed, init_numbers⟩
  · exact ⟨deliver_addressed hw.1.clear i.2, hP.1⟩
  · refine Iff.trans ?_ (step_numbers_iff hw.1 hw.2 i)
    constructor
    · intro hP
      exact hP.1
    · intro hnodup
      exact ⟨hnodup, ejectsByNumber (deliver_addressed hw.1.clear i.2) hnodup⟩

/-- A card reader with device number 3 and two slots is plugged in, then a stick with device
number 31. -/
def readerAndStick : List (Env × Input) :=
  [({}, .uevent .storage
      { StorageSystem.stickEvent "/devices/usb1/1-1" with devNumber := "3" }),
    ({}, .uevent .storage
      { StorageSystem.diskEvent "/devices/usb1/1-1/block/sda" "sda" with
        isCardReader := YES, idInstance := "0:0" }),
    ({}, .uevent .storage
      { StorageSystem.diskEvent "/devices/usb1/1-1/block/sdb" "sdb" with
        isCardReader := YES, idInstance := "0:1" }),
    ({}, .uevent .storage
      { StorageSystem.stickEvent "/devices/usb1/1-2" with devNumber := "31" })]

/-- The second slot of the reader has the number of the stick. -/
theorem card_slot_shares_number :
    ¬ Runs.StepsAll (step .tmpUsb)
        (fun w i => (w.step .tmpUsb i).numbers.Nodup ∧ (w.step .tmpUsb i).EjectsByNumber) {}
        readerAndStick := by
  intro h
  have hlast := h.2.2.2.1.1
  revert hlast
  decide

end World

end Pdm
