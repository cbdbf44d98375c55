/-
The sizes that clients are told.

`calculateSpaceInfo` computes them in 64 bits.  The reply of `getSpaceInfo`, the example
list and the device list cast them to `int32_t` on the way into the JSON, so they carry
the sizes as they are exactly below 2 TiB; the device list of the build with sessions
casts to `int64_t`.

The used size and the rate need no condition of their own: the used size is at most the
drive size, and the rate is at most 100.
-/
import Pdm.Framework.ExampleList
import Pdm.Proofs.StorageLists

namespace Pdm

/-! ### The cast -/

/-- The cast keeps exactly the numbers below `2 ^ 31`. -/
theorem toInt32_eq_iff (n : Nat) : toInt32 n = n ↔ n < 2 ^ 31 := by
  unfold toInt32
  rw [BitVec.toInt_eq_toNat_bmod, BitVec.toNat_ofNat]
  constructor
  · intro h
    have hlt := Int.bmod_lt (x := ((n % 2 ^ 32 : Nat) : Int)) (m := 2 ^ 32) (by omega)
    rw [h] at hlt
    omega
  · intro h
    have hmod : n % 2 ^ 32 = n := Nat.mod_eq_of_lt (by omega)
    rw [hmod]
    apply Int.bmod_eq_of_le
    · omega
    · omega

/-! ### The sizes computed -/

namespace PdmFs

variable {env : Env} {mountName : String} {space : SpaceInfo}

/-- What is used is at most what there is, in KB that fit 64 bits, and the rate is a
percentage. -/
theorem calculateSpaceInfo_bounds (h : calculateSpaceInfo env mountName = some space) :
    space.usedSize ≤ space.driveSize ∧ space.usedRate ≤ 100 ∧
      (space.freeSize ≤ space.driveSize → space.driveSize = space.usedSize + space.freeSize) := by
  unfold calculateSpaceInfo at h
  obtain ⟨fsInfo, -, hspace⟩ := Option.map_eq_some_iff.mp h
  have hdrive : fsInfo.blocks * fsInfo.bsize % 2 ^ 64 / 1024 < 2 ^ 54 := by
    have hlt : fsInfo.blocks * fsInfo.bsize % 2 ^ 64 < 2 ^ 64 := Nat.mod_lt _ (by omega)
    omega
  rw [← hspace]
  generalize fsInfo.blocks * fsInfo.bsize % 2 ^ 64 / 1024 = drive at hdrive
  generalize fsInfo.bavail * fsInfo.bsize % 2 ^ 64 / 1024 = free
  have hused : (if drive > free then drive - free else 0) ≤ drive := by split <;> omega
  refine ⟨hused, ?_, ?_⟩
  · dsimp only
    generalize (if drive > free then drive - free else 0) = used at hused
    by_cases hzero : drive = 0
    · rw [if_neg (fun hne => hne hzero)]
      omega
    · rw [if_pos hzero, Nat.mod_eq_of_lt (by omega)]
      have hle : used * 100 ≤ 100 * drive := by omega
      exact Nat.div_le_of_le_mul (by rw [Nat.mul_comm drive]; exact hle)
  · dsimp only
    intro hfree
    split <;> omega

end PdmFs

/-- The sizes as they are. -/
structure SpaceInfoReply.Real (space : SpaceInfo) (reply : SpaceInfoReply) : Prop where
  totalSize : reply.totalSize = space.driveSize
  freeSize : reply.freeSize = space.freeSize
  usedSize : reply.usedSize = space.usedSize
  usedRate : reply.usedRate = space.usedRate
  nonneg : 0 ≤ reply.totalSize ∧ 0 ≤ reply.freeSize ∧ 0 ≤ reply.usedSize ∧ 0 ≤ reply.usedRate
  total : space.freeSize ≤ space.driveSize → reply.totalSize = reply.usedSize + reply.freeSize

/-- The sizes that the cast keeps. -/
def SpaceInfo.Fits (space : SpaceInfo) : Prop := space.driveSize < 2 ^ 31 ∧ space.freeSize < 2 ^ 31

/-- What a client is told of computed sizes is what they are exactly when they fit. -/
theorem ofSpace_real_iff {env : Env} {mountName : String} {space : SpaceInfo}
    (hspace : PdmFs.calculateSpaceInfo env mountName = some space) :
    (SpaceInfoReply.ofSpace space).Real space ↔ space.Fits := by
  obtain ⟨hused, hrate, hsum⟩ := PdmFs.calculateSpaceInfo_bounds hspace
  constructor
  · intro h
    exact ⟨(toInt32_eq_iff _).mp h.totalSize, (toInt32_eq_iff _).mp h.freeSize⟩
  · rintro ⟨hdrive, hfree⟩
    have htotal : toInt32 space.driveSize = space.driveSize := (toInt32_eq_iff _).mpr hdrive
    have hfree' : toInt32 space.freeSize = space.freeSize := (toInt32_eq_iff _).mpr hfree
    have hused' : toInt32 space.usedSize = space.usedSize := (toInt32_eq_iff _).mpr (by omega)
    have hrate' : toInt32 space.usedRate = space.usedRate := (toInt32_eq_iff _).mpr (by omega)
    refine ⟨htotal, hfree', hused', hrate', ?_, fun hle => ?_⟩
    · show 0 ≤ toInt32 space.driveSize ∧ 0 ≤ toInt32 space.freeSize ∧
        0 ≤ toInt32 space.usedSize ∧ 0 ≤ toInt32 space.usedRate
      omega
    · show toInt32 space.driveSize = toInt32 space.usedSize + toInt32 space.freeSize
      have hsum' := hsum hle
      omega

/-! ### Measuring -/

namespace StorageDevice

variable (env : Env) (d : StorageDevice)

theorem getSpaceInfoOn_measured {p : DiskPartitionInfo} (hmounted : p.mounted = true)
    {space : SpaceInfo} (hspace : PdmFs.calculateSpaceInfo env p.mountName = some space) :
    getSpaceInfoOn env d p true = (d.setPartition (p.setSpace space), p.setSpace space) := by
  unfold getSpaceInfoOn
  rw [hmounted, hspace]
  rfl

/-- `getSpaceInfo` writes sizes alone. -/
theorem getSpaceInfo_measures (hnodup : d.addresses.Nodup) (driveName : String) :
    ∃ f : DiskPartitionInfo → SpaceInfo,
      (d.getSpaceInfo env driveName true).1.diskPartitionList =
        d.diskPartitionList.map fun p => p.setSpace (f p) := by
  have hsame : d.diskPartitionList = d.diskPartitionList.map fun p => p.setSpace p.space :=
    (List.map_id' _).symm
  unfold getSpaceInfo
  cases hfound : d.findPartition driveName with
  | none => exact ⟨fun p => p.space, hsame⟩
  | some p =>
    have hp := (d.findPartition_mem hfound).1
    unfold getSpaceInfoOn
    dsimp only
    split
    · cases PdmFs.calculateSpaceInfo env p.mountName with
      | none => exact ⟨fun p => p.space, hsame⟩
      | some space =>
        refine ⟨fun q => if q.address = p.address then space else q.space, ?_⟩
        show (d.diskPartitionList.map _) = _
        refine List.map_congr_left fun q hq => ?_
        by_cases haddr : q.address = p.address
        · have hqp : q = p := List.inj_on_of_nodup_map hnodup hq hp haddr
          rw [hqp]
          simp [DiskPartitionInfo.setSpace]
        · have haddr' : ¬ q.address = (p.setSpace space).address := haddr
          simp only [haddr, haddr', if_false]
          rfl
    · exact ⟨fun p => p.space, hsame⟩

theorem getSpaceInfo_addresses (hnodup : d.addresses.Nodup) (driveName : String) :
    (d.getSpaceInfo env driveName true).1.addresses = d.addresses := by
  obtain ⟨f, hf⟩ := getSpaceInfo_measures env d hnodup driveName
  unfold addresses
  rw [hf, List.map_map]
  rfl

/-- A partition is found under its name as before. -/
theorem getSpaceInfo_found (hnodup : d.addresses.Nodup) {name : String} {p : DiskPartitionInfo}
    (hp : d.findPartition name = some p) (driveName : String) :
    ∃ space, (d.getSpaceInfo env driveName true).1.findPartition name =
      some (p.setSpace space) := by
  obtain ⟨f, hf⟩ := getSpaceInfo_measures env d hnodup driveName
  unfold findPartition at hp ⊢
  split at hp
  · exact absurd hp (by simp)
  · rename_i hname
    refine ⟨f p, ?_⟩
    rw [if_neg hname, hf, List.find?_map]
    have hcomp : ((fun q : DiskPartitionInfo => decide (name = q.driveName)) ∘
        fun q : DiskPartitionInfo => q.setSpace (f q)) =
          fun q : DiskPartitionInfo => decide (name = q.driveName) := rfl
    rw [hcomp, hp]
    rfl

/-- In the example list, every entry of this name has the space measured. -/
theorem exampleDrives_space {name : String} {space : SpaceInfo} (disks : List DiskPartitionInfo) :
    ∀ {d : StorageDevice} {p : DiskPartitionInfo}, d.addresses.Nodup →
      d.findPartition name = some p → p.mounted = true →
      PdmFs.calculateSpaceInfo env p.mountName = some space →
      ∀ info ∈ (exampleDrives env d disks).2, info.driveName = name →
        info.spaceInfo = some (.ofSpace space) := by
  induction disks with
  | nil =>
    intro d p _ _ _ _ info hinfo
    exact absurd hinfo (by simp [exampleDrives])
  | cons disk rest ih =>
    intro d p hnodup hp hmounted hspace info hinfo hname
    rcases List.mem_cons.mp hinfo with rfl | hinfo
    · have hdisk : disk.driveName = name := hname
      unfold exampleDriveInfo getSpaceInfo
      dsimp only
      rw [hdisk, hp]
      dsimp only
      rw [getSpaceInfoOn_measured env d hmounted hspace]
      exact if_pos hmounted
    · obtain ⟨space', hp'⟩ := getSpaceInfo_found env d hnodup hp disk.driveName
      have hnodup' : (d.getSpaceInfo env disk.driveName true).1.addresses.Nodup := by
        rw [getSpaceInfo_addresses env d hnodup]
        exact hnodup
      exact ih hnodup' hp' hmounted hspace info hinfo hname

end StorageDevice

/-! ### The sizes in the JSON -/

open StorageDeviceHandler in
/-- What clients are told about a partition whose computed sizes are `space`: by the command,
when it computes them and whenever they are stored; by the example list; and by the device
list, with the sizes as the command leaves them and whenever they are stored. -/
structure RealSizes (env : Env) (s : Sys) (h : StorageDeviceHandler) (d : StorageDevice)
    (p : DiskPartitionInfo) (driveName : String) (space : SpaceInfo) : Prop where
  reply : ∃ reply ∈ (h.getSpaceInfo env s true driveName).ret.2.spaceInfo, reply.Real space
  stored : ∀ q : DiskPartitionInfo, q.mounted = true → q.space = space →
    ∃ reply ∈ (spaceResponse q).spaceInfo, reply.Real space
  exampleList : ∀ shown ∈ (d.exampleShown env).2, ∀ info ∈ shown.storageDriveList,
    info.driveName = driveName → ∃ reply ∈ info.spaceInfo, reply.Real space
  deviceList : ∃ shown ∈ getAttachedUsbStorageDeviceList
      (h.getSpaceInfo env s true driveName).obj.storageList,
    ∃ q : DiskPartitionInfo, q.address = p.address ∧ q.driveInfo ∈ shown.storageDriveList ∧
      q.driveInfo.driveSize = space.driveSize
  storedList : ∀ q : DiskPartitionInfo, q.space = space → q.driveInfo.driveSize = space.driveSize

namespace StorageDeviceHandler

variable (env : Env) (s : Sys) (h : StorageDeviceHandler)

/-- `getSpaceInfo` answers with the sizes it has computed. -/
theorem getSpaceInfo_reply {driveName : String} {d : StorageDevice} {p : DiskPartitionInfo}
    (hd : getDeviceWithName h.storageList driveName = some d)
    (hp : d.findPartition driveName = some p) (hmounted : p.mounted = true) {space : SpaceInfo}
    (hspace : PdmFs.calculateSpaceInfo env p.mountName = some space) :
    (h.getSpaceInfo env s true driveName).ret.2.spaceInfo = some (.ofSpace space) := by
  unfold getSpaceInfo StorageDevice.getSpaceInfo
  rw [hd]
  dsimp only
  rw [hp]
  dsimp only
  rw [StorageDevice.getSpaceInfoOn_measured env d hmounted hspace]
  unfold spaceResponse
  rw [if_pos (show (p.setSpace space).mounted = true from hmounted)]
  rfl

/-- The device list shows the sizes the command has left. -/
theorem getSpaceInfo_listed {driveName : String} {d : StorageDevice} {p : DiskPartitionInfo}
    (hd : getDeviceWithName h.storageList driveName = some d)
    (hp : d.findPartition driveName = some p) (hmounted : p.mounted = true) {space : SpaceInfo}
    (hspace : PdmFs.calculateSpaceInfo env p.mountName = some space) :
    ∃ shown ∈ getAttachedUsbStorageDeviceList
        (h.getSpaceInfo env s true driveName).obj.storageList,
      (p.setSpace space).driveInfo ∈ shown.storageDriveList := by
  have hmem := (d.findPartition_mem hp).1
  have hdev : d ∈ h.storageList := List.mem_of_find?_eq_some hd
  rw [getSpaceInfo_list env s h hd]
  unfold StorageDevice.getSpaceInfo
  rw [hp]
  dsimp only
  rw [StorageDevice.getSpaceInfoOn_measured env d hmounted hspace]
  have hin : p.setSpace space ∈ (d.setPartition (p.setSpace space)).diskPartitionList :=
    List.mem_map.mpr ⟨p, hmem, if_pos rfl⟩
  refine ⟨(d.setPartition (p.setSpace space)).deviceInfo, ?_, List.mem_map_of_mem hin⟩
  refine List.mem_filterMap.mpr ⟨d.setPartition (p.setSpace space), ?_, ?_⟩
  · exact List.mem_map.mpr ⟨d, hdev, if_pos rfl⟩
  · exact if_neg (List.ne_nil_of_mem hin)

end StorageDeviceHandler

/-- **The sizes reported.**  In every reachable state, the sizes computed for a mounted
partition reach the clients as they are exactly when they are below 2 TiB. -/
theorem reported_sizes_iff (cfg : Config) (is : List (Env × StorageInput)) (env : Env)
    {w : StorageSystem} (hw : w = Runs.run (StorageSystem.step cfg) {} is) {driveName : String}
    {d : StorageDevice} (hd : getDeviceWithName w.storage.storageList driveName = some d)
    {p : DiskPartitionInfo} (hp : d.findPartition driveName = some p) (hmounted : p.mounted = true)
    {space : SpaceInfo} (hspace : PdmFs.calculateSpaceInfo env p.mountName = some space) :
    RealSizes env w.sys w.storage d p driveName space ↔ space.Fits := by
  have hvalid : w.Valid := by
    rw [hw]
    exact Runs.run_invariant (I := StorageSystem.Valid)
      (fun _ i h => StorageSystem.step_valid h i) StorageSystem.init_valid
  have hdev : d ∈ w.storage.storageList := List.mem_of_find?_eq_some hd
  have hreal := ofSpace_real_iff hspace
  constructor
  · intro h
    obtain ⟨reply, hreply, hr⟩ := h.reply
    rw [StorageDeviceHandler.getSpaceInfo_reply env w.sys w.storage hd hp hmounted hspace] at hreply
    rw [← Option.some.inj hreply] at hr
    exact hreal.mp hr
  · intro hfits
    have hofSpace := hreal.mpr hfits
    have hsize : toInt32 space.driveSize = space.driveSize := (toInt32_eq_iff _).mpr hfits.1
    refine ⟨⟨_, ?_, hofSpace⟩, fun q hq hqspace => ?_, fun shown hshown info hinfo hname => ?_, ?_,
      fun q hq => ?_⟩
    · exact StorageDeviceHandler.getSpaceInfo_reply env w.sys w.storage hd hp hmounted hspace
    · refine ⟨.ofSpace space, ?_, hofSpace⟩
      unfold StorageDeviceHandler.spaceResponse
      rw [if_pos hq, hqspace]
      rfl
    · refine ⟨.ofSpace space, ?_, hofSpace⟩
      unfold StorageDevice.exampleShown at hshown
      split at hshown
      · exact absurd hshown (by simp)
      · rw [← Option.some.inj hshown] at hinfo
        exact StorageDevice.exampleDrives_space env d.diskPartitionList (hvalid.parts d hdev).nodup
          hp hmounted hspace info hinfo hname
    · obtain ⟨shown, hshown, hinfo⟩ := StorageDeviceHandler.getSpaceInfo_listed env w.sys w.storage
        hd hp hmounted hspace
      exact ⟨shown, hshown, p.setSpace space, rfl, hinfo, hsize⟩
    · show toInt32 q.space.driveSize = space.driveSize
      rw [hq]
      exact hsize

/-- A stick that is plugged in. -/
def pluggedStick : StorageSystem := Runs.run (StorageSystem.step .tmpUsb) {} StorageSystem.plugStick

/-- `statfs` answers with a file system of so many blocks of 4 KiB. -/
def blocksOf4K (blocks bavail : Nat) : Env :=
  { statfs := fun _ => some { blocks := blocks, bavail := bavail, bsize := 4096 } }

theorem pluggedStick_mounted :
    ∃ d ∈ getDeviceWithName pluggedStick.storage.storageList "sda1",
      ∃ p ∈ d.findPartition "sda1", p.mounted = true := by
  decide +kernel

/-- The sizes of a stick of 4 MB are reported as they are. -/
theorem small_stick_reported :
    ∃ d ∈ getDeviceWithName pluggedStick.storage.storageList "sda1",
      ∃ p ∈ d.findPartition "sda1",
        RealSizes (blocksOf4K 1000 600) pluggedStick.sys pluggedStick.storage d p "sda1"
          { driveSize := 4000, usedSize := 1600, freeSize := 2400, usedRate := 40 } := by
  obtain ⟨d, hd, p, hp, hmounted⟩ := pluggedStick_mounted
  exact ⟨d, hd, p, hp, (reported_sizes_iff .tmpUsb StorageSystem.plugStick (blocksOf4K 1000 600) rfl
    hd hp hmounted rfl).mpr (by unfold SpaceInfo.Fits; decide)⟩

/-- The sizes of a disk of 3 TiB, half of it free. -/
def threeTiB : SpaceInfo :=
  { driveSize := 3221225472, usedSize := 1610612736, freeSize := 1610612736, usedRate := 50 }

/-- They are not: the total size is reported as -1073741824 KB. -/
theorem big_disk_misreported :
    ∃ d ∈ getDeviceWithName pluggedStick.storage.storageList "sda1",
      ∃ p ∈ d.findPartition "sda1", p.mounted = true ∧
        PdmFs.calculateSpaceInfo (blocksOf4K 805306368 402653184) p.mountName = some threeTiB ∧
          ¬ RealSizes (blocksOf4K 805306368 402653184) pluggedStick.sys pluggedStick.storage d p
            "sda1" threeTiB := by
  obtain ⟨d, hd, p, hp, hmounted⟩ := pluggedStick_mounted
  refine ⟨d, hd, p, hp, hmounted, rfl, fun h => ?_⟩
  have hsize : toInt32 threeTiB.driveSize = threeTiB.driveSize :=
    h.storedList { p with space := threeTiB } rfl
  exact absurd hsize (by decide)

end Pdm
