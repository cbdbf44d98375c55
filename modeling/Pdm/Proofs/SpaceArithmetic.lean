/-
The space of a file system, as `PdmFs` and the service for sessions compute it.

`PdmFs::calculateSpaceInfo` is exact wherever its two products fit: what is divided by 1024 is
small enough for the rest, whatever the block size.  The copies in the service divide the block
size first.  They lose the odd bytes of each block, which shows as soon as the blocks together
lose a kilobyte; the copy that is stored loses what is above 31 bits as well.
-/
import Pdm.Framework.PdmLunaService
import Pdm.Proofs.ReportedSizes
import Pdm.Utils.SpaceInfo

namespace Pdm

/-! ### `PdmFs::calculateSpaceInfo` -/

/-- The space in kilobytes. -/
def Statfs.space (fsInfo : Statfs) : SpaceInfo :=
  let driveSize := fsInfo.blocks * fsInfo.bsize / 1024
  let freeSize := fsInfo.bavail * fsInfo.bsize / 1024
  let usedSize := if freeSize < driveSize then driveSize - freeSize else 0
  { driveSize := driveSize
    usedSize := usedSize
    freeSize := freeSize
    usedRate := if driveSize = 0 then 0 else usedSize * 100 / driveSize }

namespace PdmFs

open Words

theorem fillUsedSize_simulates {driveSize : Nat} (hfits : driveSize < 2 ^ 64)
    (freeSize usedSize : Nat) :
    Simulates (fillUsedSize (checked 64) driveSize freeSize usedSize)
      (fillUsedSize (wrapping 64) driveSize freeSize usedSize) :=
  .ite (.sub hfits) (.pure _)

theorem fillUsedRate_simulates (driveSize usedSize usedRate : Nat) :
    Simulates (fillUsedRate (checked 64) driveSize usedSize usedRate)
      (fillUsedRate (wrapping 64) driveSize usedSize usedRate) :=
  .ite (.bind (.mul _ _) fun _ _ => .div _ _) (.pure _)

/-- What is not stopped is what the machine computes. -/
theorem fillSpaceInfo_simulates (fsInfo : Statfs) (spaceInfo : SpaceInfo) :
    Simulates (fillSpaceInfo (checked 64) fsInfo spaceInfo)
      (fillSpaceInfo (wrapping 64) fsInfo spaceInfo) := by
  refine .bind (.mul _ _) fun blocks hblocks => .bind (.div _ _) fun driveSize hdrive => ?_
  refine .bind (.mul _ _) fun avail _ => .bind (.div _ _) fun freeSize _ => ?_
  have hblocks' : blocks < 2 ^ 64 := checked_mul_lt hblocks
  have hdrive' : blocks / 1024 = driveSize := checked_div_eq hdrive
  have hfits : driveSize < 2 ^ 64 := by omega
  refine .bind (fillUsedSize_simulates hfits _ _) fun usedSize _ => ?_
  exact .bind (fillUsedRate_simulates _ _ _) fun usedRate _ => .pure _

theorem fillUsedSize_checked (driveSize freeSize : Nat) :
    fillUsedSize (checked 64) driveSize freeSize 0 =
      some (if freeSize < driveSize then driveSize - freeSize else 0) := by
  unfold fillUsedSize
  by_cases hlt : freeSize < driveSize
  · rw [if_pos hlt, if_pos hlt, checked_sub (by omega)]
  · rw [if_neg hlt, if_neg hlt]
    rfl

/-- The division by 1024 leaves ten bits free, and a percentage takes seven. -/
theorem fillUsedRate_checked {driveSize usedSize : Nat} (hdrive : driveSize < 2 ^ 54)
    (hused : usedSize ≤ driveSize) :
    fillUsedRate (checked 64) driveSize usedSize 0 =
      some (if driveSize = 0 then 0 else usedSize * 100 / driveSize) := by
  unfold fillUsedRate
  by_cases hzero : driveSize = 0
  · rw [if_neg (by omega), if_pos hzero]
    rfl
  · rw [if_pos hzero, if_neg hzero, checked_mul (by omega), Option.bind_eq_bind, Option.bind_some,
      checked_div hzero]

/-- Nothing stops it where the two products fit. -/
theorem fillSpaceInfo_checked {fsInfo : Statfs} (hblocks : fsInfo.blocks * fsInfo.bsize < 2 ^ 64)
    (havail : fsInfo.bavail * fsInfo.bsize < 2 ^ 64) :
    fillSpaceInfo (checked 64) fsInfo {} = some fsInfo.space := by
  have hdrive : fsInfo.blocks * fsInfo.bsize / 1024 < 2 ^ 54 := by omega
  unfold fillSpaceInfo Statfs.space
  simp only [checked_mul hblocks, checked_mul havail, checked_div (show 1024 ≠ 0 by omega),
    Option.bind_eq_bind, Option.bind_some, fillUsedSize_checked]
  rw [fillUsedRate_checked hdrive (by split <;> omega)]
  rfl

/-- In words that wrap the products are cut before they are divided. -/
theorem fillSpaceInfo_wrapping (fsInfo : Statfs) :
    fillSpaceInfo (wrapping 64) fsInfo {} =
      let driveSize := fsInfo.blocks * fsInfo.bsize % 2 ^ 64 / 1024
      let freeSize := fsInfo.bavail * fsInfo.bsize % 2 ^ 64 / 1024
      let usedSize := fillUsedSize (wrapping 64) driveSize freeSize 0
      ({ driveSize := driveSize, usedSize := usedSize, freeSize := freeSize
         usedRate := fillUsedRate (wrapping 64) driveSize usedSize 0 } : SpaceInfo) := rfl

/-- The function as it is called, on a zeroed `SpaceInfo`. -/
theorem calculateSpaceInfo_wrapping (env : Env) (mountName : String) :
    calculateSpaceInfo env mountName =
      (env.statfs mountName).map fun fsInfo => fillSpaceInfo (wrapping 64) fsInfo {} := by
  refine congrArg (Option.map · (env.statfs mountName)) (funext fun fsInfo => ?_)
  have hdrive : fsInfo.blocks * fsInfo.bsize % 2 ^ 64 / 1024 < 2 ^ 64 := by
    have hlt : fsInfo.blocks * fsInfo.bsize % 2 ^ 64 < 2 ^ 64 := Nat.mod_lt _ (by omega)
    omega
  -- The subtraction is the one step that the two write differently.
  have hused := fillUsedSize_simulates hdrive (fsInfo.bavail * fsInfo.bsize % 2 ^ 64 / 1024) 0 _
    (fillUsedSize_checked _ _)
  rw [fillSpaceInfo_wrapping]
  dsimp only
  rw [hused]
  rfl

/-- The space computed is the space there is, and nothing on the way to it is stopped. -/
theorem calculateSpaceInfo_exact (env : Env) (mountName : String) (fsInfo : Statfs)
    (hstatfs : env.statfs mountName = some fsInfo)
    (hblocks : fsInfo.blocks * fsInfo.bsize < 2 ^ 64)
    (havail : fsInfo.bavail * fsInfo.bsize < 2 ^ 64) :
    calculateSpaceInfo env mountName = some fsInfo.space ∧
      fillSpaceInfo (checked 64) fsInfo {} = some fsInfo.space ∧ fsInfo.space.usedRate ≤ 100 := by
  have hchecked := fillSpaceInfo_checked hblocks havail
  have hspace : calculateSpaceInfo env mountName = some fsInfo.space := by
    rw [calculateSpaceInfo_wrapping, hstatfs, Option.map_some,
      fillSpaceInfo_simulates fsInfo {} _ hchecked]
  exact ⟨hspace, hchecked, (calculateSpaceInfo_bounds hspace).2.1⟩

/-- A stick with blocks of 512 bytes. -/
theorem calculateSpaceInfo_exact_small_blocks :
    ∃ env : Env, calculateSpaceInfo env "/tmp/usb/sda/sda1" =
      some { driveSize := 1500, usedSize := 500, freeSize := 1000, usedRate := 33 } :=
  ⟨{ statfs := fun _ => some ⟨3001, 2000, 512⟩ },
    (calculateSpaceInfo_exact _ _ ⟨3001, 2000, 512⟩ rfl (by decide) (by decide)).1⟩

end PdmFs

/-! ### The copies for sessions -/

/-- Division before the product loses what the odd bytes of the blocks come to. -/
theorem mul_div_eq_iff (blocks bsize : Nat) :
    blocks * (bsize / 1024) = blocks * bsize / 1024 ↔ blocks * (bsize % 1024) < 1024 := by
  have hsplit : blocks * bsize = blocks * (bsize % 1024) + 1024 * (blocks * (bsize / 1024)) := by
    conv_lhs => rw [← Nat.mod_add_div bsize 1024]
    rw [Nat.mul_add, Nat.mul_left_comm]
  rw [hsplit, Nat.add_mul_div_left _ _ (by omega)]
  omega

theorem mul_div_le (blocks bsize : Nat) : blocks * (bsize / 1024) ≤ blocks * bsize / 1024 := by
  rw [Nat.le_div_iff_mul_le (by omega), Nat.mul_assoc]
  exact Nat.mul_le_mul_left _ (Nat.div_mul_le_self _ _)

theorem toInt64_eq {n : Int} (hnonneg : 0 ≤ n) (hlt : n < 2 ^ 63) : toInt64 n = n := by
  unfold toInt64
  apply Int.bmod_eq_of_le
  · omega
  · omega

namespace LunaService

/-- With products of 63 bits nothing wraps: the numbers are those of `spaceInfo`. -/
theorem sessionSpaceInfo_eq {fsInfo : Statfs} (hblocks : fsInfo.blocks * fsInfo.bsize < 2 ^ 63)
    (havail : fsInfo.bavail * fsInfo.bsize < 2 ^ 63) :
    let info := spaceInfo ⟨fsInfo.blocks, fsInfo.bavail, fsInfo.bsize⟩
    sessionSpaceInfo fsInfo =
      { driveSize := info.driveSize, freeSize := info.freeSize, usedRate := info.usedRate,
        usedSize := info.usedSize } := by
  have hdrive := mul_div_le fsInfo.blocks fsInfo.bsize
  have hfree := mul_div_le fsInfo.bavail fsInfo.bsize
  unfold sessionSpaceInfo spaceInfo
  dsimp only
  generalize fsInfo.blocks * (fsInfo.bsize / 1024) = driveSize at hdrive
  generalize fsInfo.bavail * (fsInfo.bsize / 1024) = freeSize at hfree
  rw [toInt64_eq (n := driveSize) (by omega) (by omega),
    toInt64_eq (n := freeSize) (by omega) (by omega)]
  have hused : (if (driveSize : Int) > freeSize then toInt64 (driveSize - freeSize) else 0) =
      ((if driveSize > freeSize then driveSize - freeSize else 0 : Nat) : Int) := by
    by_cases hlt : driveSize > freeSize
    · rw [if_pos hlt, if_pos (by omega), toInt64_eq (by omega) (by omega)]
      omega
    · rw [if_neg hlt, if_neg (by omega)]
      rfl
  rw [hused]
  have hle : (if driveSize > freeSize then driveSize - freeSize else 0) ≤ driveSize := by
    split <;> omega
  generalize (if driveSize > freeSize then driveSize - freeSize else 0) = usedSize at hle
  have hrate : (if (driveSize : Int) ≠ 0 then (toInt64 (usedSize * 100)).tdiv driveSize else 0) =
      ((if driveSize ≠ 0 then usedSize * 100 / driveSize else 0 : Nat) : Int) := by
    by_cases hzero : driveSize = 0
    · rw [if_neg (by omega), if_neg (by omega)]
      rfl
    · rw [if_pos (by omega), if_pos hzero, toInt64_eq (by omega) (by omega)]
      exact Int.ofNat_tdiv (usedSize * 100) driveSize
  rw [hrate]

/-- The order of the operations is the only difference. -/
theorem spaceInfo_eq_space {fsInfo : Statfs}
    (hdrive : fsInfo.blocks * (fsInfo.bsize / 1024) = fsInfo.blocks * fsInfo.bsize / 1024)
    (hfree : fsInfo.bavail * (fsInfo.bsize / 1024) = fsInfo.bavail * fsInfo.bsize / 1024) :
    spaceInfo ⟨fsInfo.blocks, fsInfo.bavail, fsInfo.bsize⟩ =
      { driveSize := fsInfo.space.driveSize, freeSize := fsInfo.space.freeSize,
        usedRate := fsInfo.space.usedRate, usedSize := fsInfo.space.usedSize } := by
  unfold spaceInfo Statfs.space
  dsimp only
  rw [hdrive, hfree, ite_not]

end LunaService

/-- What the service replies and what it stores is the space that `PdmFs` computes. -/
structure SpaceAgrees (space : SpaceInfo) (reply : SessionSpaceInfo) (stored : Option Int) :
    Prop where
  driveSize : reply.driveSize = space.driveSize
  freeSize : reply.freeSize = space.freeSize
  usedSize : reply.usedSize = space.usedSize
  usedRate : reply.usedRate = space.usedRate
  stored : stored = some (space.driveSize : Int)

/-- What the division of the block size drops is less than a kilobyte for all blocks together,
and the drive is below 2 TiB. -/
structure Statfs.KeepsKilobytes (fsInfo : Statfs) : Prop where
  blocks : fsInfo.blocks * (fsInfo.bsize % 1024) < 1024
  bavail : fsInfo.bavail * (fsInfo.bsize % 1024) < 1024
  driveSize : fsInfo.blocks * fsInfo.bsize / 1024 < 2 ^ 31

/-- The size that is stored is that of the first drive of the name. -/
theorem markMeasured_stored {statfs : String → Option Statfs} {driveName : String}
    {drives : List SizedDrive} {drive : SizedDrive}
    (hdrive : drives.find? (·.driveName = driveName) = some drive) :
    ((SessionService.markMeasured statfs driveName drives).find?
        (·.driveName = driveName)).map SizedDrive.driveSize =
      some (SessionService.mountedDriveSize (statfs drive.mountName)) := by
  induction drives with
  | nil => cases hdrive
  | cons first rest ih =>
      unfold SessionService.markMeasured
      by_cases hname : first.driveName = driveName
      · rw [List.find?_cons_of_pos (by simpa using hname)] at hdrive
        rw [if_pos hname, List.find?_cons_of_pos (by simpa using hname), ← Option.some.inj hdrive]
        rfl
      · rw [List.find?_cons_of_neg (by simpa using hname)] at hdrive
        rw [if_neg hname, List.find?_cons_of_neg (by simpa using hname)]
        exact ih hdrive

/-- The service tells the same space as `PdmFs` exactly when whole kilobytes are kept. -/
theorem session_space_iff (env : Env) (drives : List SizedDrive) (driveName : String)
    (drive : SizedDrive) (fsInfo : Statfs)
    (hdrive : drives.find? (·.driveName = driveName) = some drive)
    (hstatfs : env.statfs drive.mountName = some fsInfo)
    (hblocks : fsInfo.blocks * fsInfo.bsize < 2 ^ 63)
    (havail : fsInfo.bavail * fsInfo.bsize < 2 ^ 63) :
    (∃ space, PdmFs.calculateSpaceInfo env drive.mountName = some space ∧
      SpaceAgrees space (LunaService.sessionSpaceInfo fsInfo)
        (((SessionService.markMeasured env.statfs driveName drives).find?
          (·.driveName = driveName)).map SizedDrive.driveSize)) ↔ fsInfo.KeepsKilobytes := by
  have hspace := (PdmFs.calculateSpaceInfo_exact env drive.mountName fsInfo hstatfs
    (by omega) (by omega)).1
  rw [markMeasured_stored hdrive, hstatfs, LunaService.sessionSpaceInfo_eq hblocks havail, hspace]
  constructor
  · rintro ⟨space, hsome, h⟩
    obtain rfl := Option.some.inj hsome
    have hdriveSize : fsInfo.blocks * (fsInfo.bsize / 1024) = fsInfo.blocks * fsInfo.bsize / 1024 :=
      Int.ofNat.inj h.driveSize
    have hfreeSize : fsInfo.bavail * (fsInfo.bsize / 1024) = fsInfo.bavail * fsInfo.bsize / 1024 :=
      Int.ofNat.inj h.freeSize
    have hstored : toInt32 (fsInfo.blocks * (fsInfo.bsize / 1024)) =
        (fsInfo.blocks * fsInfo.bsize / 1024 : Nat) := Option.some.inj h.stored
    rw [hdriveSize] at hstored
    exact ⟨(mul_div_eq_iff _ _).mp hdriveSize, (mul_div_eq_iff _ _).mp hfreeSize,
      (toInt32_eq_iff _).mp hstored⟩
  · rintro ⟨hblocks', hbavail', hsize⟩
    have hdriveSize := (mul_div_eq_iff _ _).mpr hblocks'
    have hfreeSize := (mul_div_eq_iff _ _).mpr hbavail'
    have hstored : toInt32 (fsInfo.blocks * (fsInfo.bsize / 1024)) = fsInfo.space.driveSize := by
      rw [hdriveSize]
      exact (toInt32_eq_iff _).mpr hsize
    rw [LunaService.spaceInfo_eq_space hdriveSize hfreeSize]
    exact ⟨_, rfl, rfl, rfl, rfl, rfl, congrArg some hstored⟩

/-- A stick with blocks of 4096 bytes. -/
theorem session_space_iff_stick :
    ∃ space, PdmFs.calculateSpaceInfo { statfs := fun _ => some ⟨1000, 400, 4096⟩ }
        "/tmp/usb/sda/sda1" = some space ∧
      SpaceAgrees space (LunaService.sessionSpaceInfo ⟨1000, 400, 4096⟩) (some 4000) :=
  (session_space_iff { statfs := fun _ => some ⟨1000, 400, 4096⟩ }
    [{ driveName := "sda1", mountName := "/tmp/usb/sda/sda1" }] "sda1"
    { driveName := "sda1", mountName := "/tmp/usb/sda/sda1" } ⟨1000, 400, 4096⟩
    (by decide) rfl (by decide) (by decide)).mpr ⟨by decide, by decide, by decide⟩

/-- Of a 4 GB stick with blocks of 512 bytes the service says that it has no space at all. -/
theorem small_blocks_without_space :
    ¬ ∃ space, PdmFs.calculateSpaceInfo { statfs := fun _ => some ⟨7812500, 4000000, 512⟩ }
        "/tmp/usb/sda/sda1" = some space ∧
      SpaceAgrees space (LunaService.sessionSpaceInfo ⟨7812500, 4000000, 512⟩)
        (((SessionService.markMeasured (fun _ => some ⟨7812500, 4000000, 512⟩) "sda1"
          [{ driveName := "sda1", mountName := "/tmp/usb/sda/sda1" }]).find?
          (·.driveName = "sda1")).map SizedDrive.driveSize) := by
  rintro ⟨space, hspace, h⟩
  have hspace' : some space = some ⟨3906250, 1906250, 2000000, 48⟩ := by
    rw [← hspace]
    decide
  obtain rfl := Option.some.inj hspace'
  have hzero : (LunaService.sessionSpaceInfo ⟨7812500, 4000000, 512⟩).driveSize = 0 := by decide
  have hsize := h.driveSize
  rw [hzero] at hsize
  exact absurd hsize (by decide)

end Pdm
