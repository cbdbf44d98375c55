/-
Partitions and the disks they come from.

`origins` are the event paths and drive names of a device's partitions, and `Belongs`
says of a whole list that each partition's path is at or below its device's node, that
its drive is the device's disk or a partition of it, and that no drive is in two devices.
An event goes to the foremost device whose path matches while that has no name, else to
the foremost one whose name matches, else a further slot is made for it (`HandedTo`,
`OpensSlot`).  Nothing ties the two matches to each other, nor either to the disk.  **Along
every run partitions belong to their disks exactly when the devices stand so that every
event comes home** (`belongs_iff`).
-/
import Pdm.Lib.Foremost
import Pdm.Lib.PathOrder
import Pdm.Proofs.WellFormed

namespace Pdm

open PathOrder

/-! ### Disks and partitions -/

/-- The name is the disk's, or that of a partition of it: its number stands behind the
disk's name, after a `p` when that ends in a digit. -/
def isOfDisk (diskName driveName : String) : Bool :=
  driveName = diskName ||
    diskName ≠ "" && startsWith driveName diskName &&
      (let rest := driveName.toList.drop diskName.toList.length
       let number := if diskName.toList.getLast?.any (·.isDigit) then rest.tail else rest
       number ≠ [] && number.all (·.isDigit)
        && (!diskName.toList.getLast?.any (·.isDigit) || rest.head? = some 'p'))

example : isOfDisk "sda" "sda12" = true := by decide
example : isOfDisk "sda" "sdaa1" = false := by decide
example : isOfDisk "mmcblk0" "mmcblk0p1" = true := by decide

namespace StorageDevice

/-- The event path and the drive name of each partition. -/
def origins (d : StorageDevice) : List (String × String) :=
  d.diskPartitionList.map fun p => (p.node, p.driveName)

theorem origins_eq_idents (d : StorageDevice) :
    d.origins = d.idents.map fun ident => (ident.2.1, ident.2.2.1) := by
  unfold origins idents
  rw [List.map_map]
  rfl

/-- The event adds a partition to the device. -/
def joins (env : Env) (d : StorageDevice) (devClass : DeviceClass) : Prop :=
  (receiver env d devClass).isSome = true ∧ d.findPartition devClass.devName = none

/-- The event is the add of a disk, which gives the device the disk's name. -/
def IsDiskAdd (devClass : DeviceClass) : Prop :=
  devClass.devType = DISK ∧ devClass.action = "add"

/-- The event lists a partition with the device: it is a partition's, or that of a disk
without partitions in no card reader, the name is not listed there yet, and no card is to
be asked for first. -/
def ListsPartition (env : Env) (d : StorageDevice) (devClass : DeviceClass) : Prop :=
  d.isSdCardRemoved = false ∧
  (devClass.devName = "" ∨ ∀ o ∈ d.origins, o.2 ≠ devClass.devName) ∧
  (devClass.devType = "partition" ∨
    devClass.devType = DISK ∧ devClass.isCardReader ≠ YES ∧
      (devClass.action = "add" ∧ env.partitionCount devClass.devName = 0 ∨
        devClass.action = "change" ∧ d.storageType ≠ .usbCardReader ∧
          env.partitionCount d.deviceName = 0))

section Event

variable (env : Env) (s : Sys) (d : StorageDevice) (devClass : DeviceClass)

theorem findPartition_none_iff (driveName : String) :
    d.findPartition driveName = none ↔ driveName = "" ∨ ∀ o ∈ d.origins, o.2 ≠ driveName := by
  by_cases hname : driveName = ""
  · rw [hname]
    exact iff_of_true d.findPartition_empty (Or.inl rfl)
  · have hsome := (d.findPartition_isSome hname).not
    rw [Option.not_isSome_iff_eq_none] at hsome
    rw [hsome, or_iff_right hname]
    simp [origins]

theorem nameDisk_storageType :
    (d.nameDisk devClass).storageType ≠ .usbCardReader ↔ devClass.isCardReader ≠ YES := by
  unfold nameDisk setStorageInterfaceType
  dsimp only
  by_cases hreader : devClass.isCardReader = YES
  · simp [hreader]
  · rw [if_neg hreader]
    split <;> simp [hreader]

theorem typeDevDisk_iff (devType : String) :
    sMapUsbDeviceType devType = .typeDevDisk ↔ devType = DISK := by
  unfold sMapUsbDeviceType DISK
  by_cases hdisk : devType = "disk"
  · simp [hdisk]
  · rw [if_neg hdisk]
    split <;> simp [hdisk]

theorem typeDevPartition_iff (devType : String) :
    sMapUsbDeviceType devType = .typeDevPartition ↔ devType = "partition" := by
  unfold sMapUsbDeviceType
  by_cases hdisk : devType = "disk"
  · simp [hdisk]
  · rw [if_neg hdisk]
    split <;> simp_all

theorem usbDevAdd_iff (action : String) : getDeviceAction action = .usbDevAdd ↔ action = "add" := by
  unfold getDeviceAction sMapDeviceActions
  by_cases hadd : action = "add"
  · simp [hadd]
  · rw [if_neg hadd]
    repeat' split
    all_goals simp [hadd]

theorem usbDevChange_iff (action : String) :
    getDeviceAction action = .usbDevChange ↔ action = "change" := by
  unfold getDeviceAction sMapDeviceActions
  by_cases hchange : action = "change"
  · simp [hchange]
  · repeat' split
    all_goals simp_all

/-- What makes a disk event add a partition. -/
theorem receiver_disk_iff (hpresent : d.isSdCardRemoved = false)
    (hdisk : sMapUsbDeviceType devClass.devType = .typeDevDisk) :
    (receiver env d devClass).isSome = true ↔ devClass.isCardReader ≠ YES ∧
      (devClass.action = "add" ∧ env.partitionCount devClass.devName = 0 ∨
        devClass.action = "change" ∧ d.storageType ≠ .usbCardReader ∧
          env.partitionCount d.deviceName = 0) := by
  unfold receiver
  rw [hpresent, if_neg Bool.false_ne_true, hdisk]
  dsimp only
  cases haction : getDeviceAction devClass.action with
  | usbDevAdd =>
    have hadd := (usbDevAdd_iff _).mp haction
    have hkind := nameDisk_storageType d devClass
    dsimp only
    rw [Option.isSome_ite, hkind, show (d.nameDisk devClass).deviceName = devClass.devName from rfl]
    simp [hadd, and_comm]
  | usbDevChange =>
    have hchange := (usbDevChange_iff _).mp haction
    dsimp only
    rw [Option.isSome_ite]
    simp only [hchange, true_and, false_and, false_or, String.reduceEq]
    rw [← and_assoc, and_comm (b := devClass.isCardReader ≠ YES)]
  | _ =>
    have hadd : devClass.action ≠ "add" := fun h => by simp [(usbDevAdd_iff _).mpr h] at haction
    have hchange : devClass.action ≠ "change" := fun h => by
      simp [(usbDevChange_iff _).mpr h] at haction
    simp [hadd, hchange]

/-- What makes an event add a partition. -/
theorem joins_iff : d.joins env devClass ↔ d.ListsPartition env devClass := by
  have hnew := d.findPartition_none_iff devClass.devName
  unfold joins ListsPartition
  rw [hnew]
  cases hsd : d.isSdCardRemoved with
  | true =>
    have hnone : receiver env d devClass = none := by
      unfold receiver
      rw [if_pos hsd]
    simp [hnone]
  | false =>
    rw [and_comm, and_iff_right rfl, and_congr_right_iff]
    intro _
    cases htype : sMapUsbDeviceType devClass.devType with
    | typeDevUsb =>
      have hdisk : devClass.devType ≠ DISK := fun h => by
        simp [(typeDevDisk_iff _).mpr h] at htype
      have hpart : devClass.devType ≠ "partition" := fun h => by
        simp [(typeDevPartition_iff _).mpr h] at htype
      have hnone : receiver env d devClass = none := by
        unfold receiver
        rw [hsd, htype]
        rfl
      simp [hnone, hdisk, hpart]
    | typeDevPartition =>
      have hpart := (typeDevPartition_iff _).mp htype
      have hsome : receiver env d devClass = some d := by
        unfold receiver
        rw [hsd, htype]
        rfl
      simp [hsome, hpart]
    | typeDevDisk =>
      have hdisk := (typeDevDisk_iff _).mp htype
      have hpart : DISK ≠ "partition" := by decide
      rw [receiver_disk_iff env d devClass hsd htype, hdisk]
      simp [hpart]

/-- The name that an event leaves a device with. -/
theorem informed_name :
    (informed env d devClass).deviceName =
      if d.isSdCardRemoved = false ∧ devClass.devType = DISK ∧ devClass.action = "add" then
        devClass.devName
      else d.deviceName := by
  cases hsd : d.isSdCardRemoved with
  | true =>
    unfold informed
    simp [hsd]
  | false =>
    by_cases hdisk : devClass.devType = DISK
    · by_cases hadd : devClass.action = "add"
      · rw [if_pos ⟨rfl, hdisk, hadd⟩]
        unfold informed
        rw [hsd, if_neg Bool.false_ne_true, (typeDevDisk_iff _).mpr hdisk]
        dsimp only
        rw [(usbDevAdd_iff _).mpr hadd]
        dsimp only
        rw [updateMultiSdCard_deviceName]
        rfl
      · rw [if_neg (by simp [hadd])]
        exact informed_deviceName env d devClass ((typeDevDisk_iff _).mpr hdisk)
          (mt (usbDevAdd_iff _).mp hadd)
    · rw [if_neg (by simp [hdisk])]
      unfold informed
      rw [hsd, if_neg Bool.false_ne_true]
      cases htype : sMapUsbDeviceType devClass.devType with
      | typeDevDisk => exact absurd ((typeDevDisk_iff _).mp htype) hdisk
      | typeDevPartition => rfl
      | typeDevUsb =>
        dsimp only
        unfold updateDeviceInfo
        dsimp only
        split <;> simp

/-- What an event makes of the origins: one is added, or they stay, or they are dropped by
an event that gives the device no name. -/
theorem setDeviceInfo_origins :
    (d.joins env devClass ∧ (setDeviceInfo env s d devClass).obj.origins =
        d.origins ++ [(devClass.devPath, devClass.devName)]) ∨
      (¬ d.joins env devClass ∧ ((setDeviceInfo env s d devClass).obj.origins = d.origins ∨
        ((setDeviceInfo env s d devClass).obj.origins = [] ∧
          (informed env d devClass).deviceName = d.deviceName))) := by
  have hof : ∀ {e f : StorageDevice}, e.diskPartitionList = f.diskPartitionList →
      e.origins = f.origins := by
    intro e f h
    unfold origins
    rw [h]
  rcases setDeviceInfo_cases env s d devClass with
    ⟨d₀, s₀, hd₀, -, hr⟩ | ⟨hnone, hr⟩ | ⟨hnone, hname, -, t, -, hr⟩
  · have hlist := (receiver_list env d devClass hd₀).1
    rw [hof hr.parts]
    rcases setPartitionInfo_cases env s₀ d₀ devClass with ⟨hfound, hsame⟩ | ⟨hnew, -, hidents⟩
    · rw [findPartition_congr hlist] at hfound
      refine Or.inr ⟨fun h => ?_, Or.inl ?_⟩
      · rw [h.2] at hfound
        exact absurd hfound (by simp)
      · rw [hsame]
        exact hof hlist
    · rw [findPartition_congr hlist] at hnew
      refine Or.inl ⟨⟨by rw [hd₀]; rfl, hnew⟩, ?_⟩
      rw [origins_eq_idents, hidents, ← origins_eq_idents, ← hof hlist]
      unfold origins
      rw [addPartition_list, List.map_append, List.map_singleton]
      rfl
  · refine Or.inr ⟨fun h => ?_, Or.inl (hof hr.parts)⟩
    rw [joins, hnone] at h
    exact absurd h.1 (by simp)
  · refine Or.inr ⟨fun h => ?_, Or.inr ⟨?_, hname⟩⟩
    · rw [joins, hnone] at h
      exact absurd h.1 (by simp)
    · unfold origins
      rw [hr.parts]
      rfl

theorem origins_listed (hlists : d.ListsPartition env devClass) :
    (devClass.devPath, devClass.devName) ∈ (setDeviceInfo env s d devClass).obj.origins := by
  rcases setDeviceInfo_origins env s d devClass with ⟨-, horig⟩ | ⟨hno, -⟩
  · rw [horig]
    simp
  · exact absurd ((d.joins_iff env devClass).mpr hlists) hno

/-- What the device holds afterwards it held before, or the event has added. -/
theorem mem_origins_after {o : String × String}
    (ho : o ∈ (setDeviceInfo env s d devClass).obj.origins) :
    o ∈ d.origins ∨ (d.ListsPartition env devClass ∧ o = (devClass.devPath, devClass.devName)) := by
  rcases setDeviceInfo_origins env s d devClass with ⟨hjoins, horig⟩ | ⟨-, horig | ⟨horig, -⟩⟩
  · rw [horig] at ho
    rcases List.mem_append.mp ho with ho | ho
    · exact Or.inl ho
    · exact Or.inr ⟨(d.joins_iff env devClass).mp hjoins, List.mem_singleton.mp ho⟩
  · rw [horig] at ho
    exact Or.inl ho
  · rw [horig] at ho
    exact absurd ho (by simp)

end Event

end StorageDevice

/-! ### The list of devices -/

open StorageDevice

/-- Each partition comes from its device's disk, and no two devices hold one drive. -/
structure Belongs (l : List StorageDevice) : Prop where
  own : ∀ d ∈ l, ∀ o ∈ d.origins, AtOrBelow d.node o.1 ∧ isOfDisk d.deviceName o.2 = true
  apart : ∀ d ∈ l, ∀ e ∈ l, d.address ≠ e.address →
    ∀ o ∈ d.origins, ∀ q ∈ e.origins, o.2 ≠ q.2

/-- The device is the event's home: where the event names it, the partitions it holds are
of that name; what the event lists comes from below the device, is of its disk, and is with
no other device. -/
structure AtHome (env : Env) (l : List StorageDevice) (d : StorageDevice)
    (devClass : DeviceClass) : Prop where
  renamed : d.isSdCardRemoved = false → IsDiskAdd devClass →
    ∀ o ∈ d.origins, isOfDisk devClass.devName o.2 = true
  below : d.ListsPartition env devClass → AtOrBelow d.node devClass.devPath
  ofDisk : d.ListsPartition env devClass → ¬ IsDiskAdd devClass →
    isOfDisk d.deviceName devClass.devName = true
  single : d.ListsPartition env devClass → ∀ e ∈ l, e.address ≠ d.address →
    ∀ q ∈ e.origins, q.2 ≠ devClass.devName

/-- **One device's event keeps partitions with their disks exactly when it is at home.** -/
theorem belongs_replace_iff (env : Env) (s : Sys) {l l' : List StorageDevice} {d : StorageDevice}
    {devClass : DeviceClass} (hl : Belongs l)
    (hmem : ∀ x, x ∈ l' ↔ x = (d.setDeviceInfo env s devClass).obj ∨ (x ∈ l ∧ x.address ≠ d.address))
    (hown : ∀ o ∈ d.origins, AtOrBelow d.node o.1 ∧ isOfDisk d.deviceName o.2 = true)
    (hapart : ∀ e ∈ l, e.address ≠ d.address → ∀ o ∈ d.origins, ∀ q ∈ e.origins, o.2 ≠ q.2) :
    Belongs l' ↔ AtHome env l d devClass := by
  have hcore := d.setDeviceInfo_core env s devClass
  have hnode := (node_of_core hcore).trans (d.informed_keeps env devClass).2.1
  have haddr := d.setDeviceInfo_address env s devClass
  have hname := (deviceName_of_core hcore).trans (d.informed_name env devClass)
  have hcases := d.setDeviceInfo_origins env s devClass
  rw [d.joins_iff env devClass, d.informed_name env devClass] at hcases
  have hlast := d.origins_listed env s devClass
  have horigins := fun o => d.mem_origins_after env s devClass (o := o)
  generalize (d.setDeviceInfo env s devClass).obj = d'
    at hcases hlast horigins hmem hnode hname haddr hcore
  constructor
  · intro hb
    have hd' := hb.own d' ((hmem d').mpr (Or.inl rfl))
    rw [hnode, hname] at hd'
    refine ⟨fun hsd hadd o ho => ?_, fun hlists => (hd' _ (hlast hlists)).1,
      fun hlists hnot => ?_, fun hlists e he hne q hq heq => ?_⟩
    · have hnamed : d.isSdCardRemoved = false ∧ devClass.devType = DISK ∧
          devClass.action = "add" := ⟨hsd, hadd⟩
      rw [if_pos hnamed] at hd' hcases
      rcases hcases with ⟨-, horig⟩ | ⟨-, horig | ⟨-, hsame⟩⟩
      · exact (hd' o (by rw [horig]; simp [ho])).2
      · exact (hd' o (by rw [horig]; exact ho)).2
      · rw [hsame]
        exact (hown o ho).2
    · have hof := (hd' _ (hlast hlists)).2
      rw [if_neg fun h => hnot h.2] at hof
      exact hof
    · exact hb.apart d' ((hmem d').mpr (Or.inl rfl)) e ((hmem e).mpr (Or.inr ⟨he, hne⟩))
        (by rw [haddr]; exact Ne.symm hne) _ (hlast hlists) q hq heq.symm
  · intro hhome
    have hnew : ∀ e ∈ l, e.address ≠ d.address → ∀ o ∈ d'.origins, ∀ q ∈ e.origins, o.2 ≠ q.2 := by
      intro e he hne o ho q hq
      rcases horigins o ho with ho | ⟨hlists, rfl⟩
      · exact hapart e he hne o ho q hq
      · exact (hhome.single hlists e he hne q hq).symm
    refine ⟨fun x hx o ho => ?_, fun x hx y hy hne o ho q hq => ?_⟩
    · rcases (hmem x).mp hx with rfl | ⟨hx, -⟩
      · rw [hnode, hname]
        rcases horigins o ho with ho | ⟨hlists, rfl⟩
        · refine ⟨(hown o ho).1, ?_⟩
          split
          · next hnamed => exact hhome.renamed hnamed.1 hnamed.2 o ho
          · exact (hown o ho).2
        · refine ⟨hhome.below hlists, ?_⟩
          split
          · simp [isOfDisk]
          · next hnot => exact hhome.ofDisk hlists fun h => hnot ⟨hlists.1, h⟩
      · exact hl.own x hx o ho
    · rcases (hmem x).mp hx with rfl | ⟨hx, hxd⟩
      · rcases (hmem y).mp hy with rfl | ⟨hy, hyd⟩
        · exact absurd rfl hne
        · exact hnew y hy hyd o ho q hq
      · rcases (hmem y).mp hy with rfl | ⟨hy, -⟩
        · exact (hnew x hx hxd q hq o ho).symm
        · exact hl.apart x hx y hy hne o ho q hq

namespace StorageSystem

open StorageDeviceHandler (target Target takes HandedTo OpensDevice OpensSlot target_listed_iff
  target_new_iff)

/-- What the event lists with a slot made for it comes with the disk's add, which gives the
slot its name, and is with no other device. -/
def SlotHome (env : Env) (l : List StorageDevice) (devClass : DeviceClass) : Prop :=
  (devClass.devType = "partition" ∨
    devClass.devType = DISK ∧ devClass.isCardReader ≠ YES ∧
      (devClass.action = "add" ∧ env.partitionCount devClass.devName = 0 ∨
        devClass.action = "change")) →
  (IsDiskAdd devClass ∨ devClass.devName = "") ∧
    ∀ e ∈ l, ∀ q ∈ e.origins, q.2 ≠ devClass.devName

/-- The devices stand so that the event comes home. -/
def ComesHome (cfg : Config) (w : StorageSystem) (i : Env × StorageInput) : Prop :=
  ∀ devClass, i.2 = .uevent devClass → takes devClass = true →
    (∀ d, HandedTo w.storage.storageList devClass d → AtHome i.1 w.storage.storageList d devClass) ∧
    (OpensSlot cfg w.storage.storageList devClass → SlotHome i.1 w.storage.storageList devClass)

/-- After the step partitions are with their disks. -/
def BelongsAfter (cfg : Config) (w : StorageSystem) (i : Env × StorageInput) : Prop :=
  Belongs (w.step cfg i).storage.storageList

/-- Without an event partitions stay where they are. -/
theorem belongs_within {s t : Sys} {l l' : List StorageDevice} (hb : Belongs l)
    (hw : WithinList s l t l') : Belongs l' := by
  have heach : ∀ e ∈ l', ∃ d ∈ l, e.core = d.core ∧ e.origins ⊆ d.origins := by
    intro e he
    obtain ⟨d, hd, hcore, -, hidents⟩ := hw.each e he
    refine ⟨d, hd, hcore, ?_⟩
    rw [origins_eq_idents, origins_eq_idents]
    exact List.map_subset _ hidents
  refine ⟨fun e he o ho => ?_, fun e he f hf hne o ho q hq => ?_⟩
  · obtain ⟨d, hd, hcore, horig⟩ := heach e he
    rw [node_of_core hcore, deviceName_of_core hcore]
    exact hb.own d hd o (horig ho)
  · obtain ⟨d, hd, hcore, horig⟩ := heach e he
    obtain ⟨d', hd', hcore', horig'⟩ := heach f hf
    rw [address_of_core hcore, address_of_core hcore'] at hne
    exact hb.apart d hd d' hd' hne o (horig ho) q (horig' hq)

/-- A new device is the home of the event it is made for when a slot is. -/
theorem atHome_newDevice_iff (cfg : Config) (env : Env) {l : List StorageDevice} {address : Nat}
    (hfresh : ∀ e ∈ l, e.address ≠ address) (devClass : DeviceClass)
    (reader : Option StorageDevice) :
    AtHome env l (StorageDeviceHandler.newDevice cfg address devClass reader) devClass ↔
      SlotHome env l devClass := by
  have hnode := StorageDeviceHandler.newDevice_node cfg address devClass reader
  have haddr := StorageDeviceHandler.newDevice_address cfg address devClass reader
  have horigins : (StorageDeviceHandler.newDevice cfg address devClass reader).origins = [] := by
    unfold origins
    rw [StorageDeviceHandler.newDevice_list]
    rfl
  have hname : (StorageDeviceHandler.newDevice cfg address devClass reader).deviceName = "" := by
    unfold StorageDeviceHandler.newDevice
    split <;> rfl
  have hcard : (StorageDeviceHandler.newDevice cfg address devClass reader).isSdCardRemoved =
      false := by
    unfold StorageDeviceHandler.newDevice
    split <;> rfl
  have hkind : (StorageDeviceHandler.newDevice cfg address devClass reader).storageType =
      .usbUndefined := by
    unfold StorageDeviceHandler.newDevice
    split <;> rfl
  have hlists : (StorageDeviceHandler.newDevice cfg address devClass reader).ListsPartition env
      devClass ↔ (devClass.devType = "partition" ∨
        devClass.devType = DISK ∧ devClass.isCardReader ≠ YES ∧
          (devClass.action = "add" ∧ env.partitionCount devClass.devName = 0 ∨
            devClass.action = "change")) := by
    unfold ListsPartition
    rw [hcard, horigins, hkind, hname, show env.partitionCount "" = 0 from rfl]
    simp
  have hofNone : isOfDisk "" devClass.devName = true ↔ devClass.devName = "" := by
    simp [isOfDisk]
  generalize StorageDeviceHandler.newDevice cfg address devClass reader = d at *
  constructor
  · intro hhome hevent
    have hlist := hlists.mpr hevent
    refine ⟨?_, fun e he => hhome.single hlist e he (by rw [haddr]; exact hfresh e he)⟩
    by_cases hadd : IsDiskAdd devClass
    · exact Or.inl hadd
    · have hof := hhome.ofDisk hlist hadd
      rw [hname] at hof
      exact Or.inr (hofNone.mp hof)
  · intro hslot
    refine ⟨fun _ _ => by simp [horigins], fun _ => ?_, fun hlist hnot => ?_,
      fun hlist e he _ => (hslot (hlists.mp hlist)).2 e he⟩
    · rw [hnode]
      exact AtOrBelow.refl _
    · rw [hname]
      exact hofNone.mpr ((hslot (hlists.mp hlist)).1.resolve_left hnot)

/-- An event comes home when it is at home with the device it is handed to. -/
theorem comesHome_iff (cfg : Config) {w : StorageSystem} (hwf : w.Valid) (env : Env)
    (devClass : DeviceClass) :
    w.ComesHome cfg (env, .uevent devClass) ↔ ∀ d,
      (target cfg w.sys.next w.storage devClass = .listed d ∨
        target cfg w.sys.next w.storage devClass = .new d) →
      AtHome env w.storage.storageList d devClass := by
  have hfresh : ∀ e ∈ w.storage.storageList, e.address ≠ w.sys.next :=
    fun e he => Nat.ne_of_lt (hwf.given e he)
  constructor
  · intro h d hd
    have htakes : takes devClass = true := by
      by_contra hnot
      rw [Bool.not_eq_true] at hnot
      rw [StorageDeviceHandler.target_nobody cfg w.sys.next w.storage hnot] at hd
      exact absurd hd (by simp)
    obtain ⟨hlisted, hslot⟩ := h devClass rfl htakes
    rcases hd with hd | hd
    · exact hlisted d ((target_listed_iff htakes).mp hd)
    · rcases (target_new_iff htakes).mp hd with ⟨hopens, rfl⟩ | ⟨hopens, f, -, rfl⟩
      · -- The event of a USB device lists nothing.
        refine (atHome_newDevice_iff cfg env hfresh devClass none).mpr fun hevent => ?_
        simp [hopens.1, USB_DEVICE, DISK] at hevent
      · exact (atHome_newDevice_iff cfg env hfresh devClass (some f)).mpr (hslot hopens)
  · intro h devClass' hi htakes
    obtain rfl : devClass = devClass' := StorageInput.uevent.inj hi
    refine ⟨fun d hd => h d (Or.inl ((target_listed_iff htakes).mpr hd)), fun hopens => ?_⟩
    obtain ⟨f, hf, -⟩ := hopens.2.1
    have hnew : target cfg w.sys.next w.storage devClass =
        .new (StorageDeviceHandler.newDevice cfg w.sys.next devClass (some f)) :=
      (target_new_iff htakes).mpr (Or.inr ⟨hopens, f, hf, rfl⟩)
    exact (atHome_newDevice_iff cfg env hfresh devClass (some f)).mp (h _ (Or.inr hnew))

theorem belongsAfter_iff (cfg : Config) {w : StorageSystem} (hwf : w.Valid)
    (hb : Belongs w.storage.storageList) (i : Env × StorageInput) :
    w.BelongsAfter cfg i ↔ w.ComesHome cfg i := by
  obtain ⟨env, input⟩ := i
  by_cases hevent : ∃ devClass, input = .uevent devClass
  · obtain ⟨devClass, rfl⟩ := hevent
    rw [comesHome_iff cfg hwf env devClass]
    unfold BelongsAfter
    show Belongs (w.storage.HandlerEvent cfg env w.clear.sys devClass).obj.storageList ↔ _
    rcases w.storage.HandlerEvent_outcome cfg env w.clear.sys devClass with
      ⟨htarget, -, hl⟩ | ⟨d, htarget, hmem, -, hl⟩ | ⟨reader, htarget, -, hl⟩ | ⟨d, hremove, -, -, hl⟩
    · rw [show w.clear.sys.next = w.sys.next from rfl] at htarget
      rw [hl, htarget]
      exact iff_of_true hb (by simp)
    · rw [show w.clear.sys.next = w.sys.next from rfl] at htarget
      have hiff : Belongs (writeBack w.storage.storageList
          (d.setDeviceInfo env w.clear.sys devClass).obj) ↔
          AtHome env w.storage.storageList d devClass :=
        belongs_replace_iff env w.clear.sys hb
        (fun x => WellFormed.mem_handed hmem (d.setDeviceInfo_address env w.clear.sys devClass))
        (hb.own d hmem) (fun e he hne => hb.apart d hmem e he (Ne.symm hne))
      rw [hl, htarget, hiff]
      simp
    · rw [show w.clear.sys.next = w.sys.next from rfl] at htarget
      have hnew : (StorageDeviceHandler.newDevice cfg w.sys.next devClass reader).origins = [] := by
        unfold origins
        rw [StorageDeviceHandler.newDevice_list]
        rfl
      have hiff : Belongs (w.storage.HandlerEvent cfg env w.clear.sys devClass).obj.storageList ↔
          AtHome env w.storage.storageList
            (StorageDeviceHandler.newDevice cfg w.sys.next devClass reader) devClass :=
        belongs_replace_iff env w.clear.sys.alloc hb
        (fun x => ?_) (by simp [hnew]) (by simp [hnew])
      · rw [htarget, hiff]
        simp
      · rw [hl, StorageDeviceHandler.newDevice_address]
        exact hwf.mem_created
    · have hnobody : target cfg w.sys.next w.storage devClass = .nobody := by
        unfold target StorageDeviceHandler.takes
        simp [hremove]
      have hsub : (removePointer w.storage.storageList d) ⊆ w.storage.storageList :=
        List.filter_sublist.subset
      rw [hl, hnobody]
      refine iff_of_true ⟨fun x hx => hb.own x (hsub hx), fun x hx y hy => ?_⟩ (by simp)
      exact hb.apart x (hsub hx) y (hsub hy)
  · have hw := w.clear.deliver_within cfg env fun devClass hd => hevent ⟨devClass, hd⟩
    refine iff_of_true (belongs_within hb hw) fun devClass hi _ => ?_
    exact absurd ⟨devClass, hi⟩ hevent

/-- **Along every run partitions are with the disks they came from exactly when the
devices stand so that every event comes home.** -/
theorem belongs_iff (cfg : Config) (inputs : List (Env × StorageInput)) :
    Runs.StepsAll (step cfg) (BelongsAfter cfg) {} inputs ↔
      Runs.StepsAll (step cfg) (ComesHome cfg) {} inputs :=
  Runs.stepsAll_congr (P := BelongsAfter cfg) (Q := ComesHome cfg)
    (I := fun w : StorageSystem => w.Valid ∧ Belongs w.storage.storageList)
    (fun _ i hw hb => ⟨step_valid hw.1 i, hb⟩)
    (fun _ i hw => belongsAfter_iff cfg hw.1 hw.2 i) ⟨init_valid, ⟨by simp, by simp⟩⟩

/-- Two sticks are plugged before the first disk arrives, and it is the second stick's. -/
def disksMixedUp : List (Env × StorageInput) :=
  [({}, .uevent (stickEvent "/devices/usb1/1-2")),
    ({}, .uevent (stickEvent "/devices/usb1/1-1")),
    (onePartition, .uevent (diskEvent "/devices/usb1/1-1/block/sda" "sda")),
    ({}, .uevent (partitionEvent "/devices/usb1/1-1/block/sda/sda1" "sda1"))]

/-- The partition, whose name starts with the empty name of the first stick, goes there. -/
theorem partition_listed_by_sibling :
    ¬ Runs.StepsAll (step .tmpUsb) (BelongsAfter .tmpUsb) {} disksMixedUp := by
  intro h
  have hown := h.2.2.2.1.own
  revert hown
  decide

end StorageSystem

end Pdm
