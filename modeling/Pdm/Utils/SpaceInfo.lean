/-
The space of a file system in kilobytes, computed in three places.

`PdmFs::calculateSpaceInfo` multiplies before it divides, in unsigned 64-bit words.  In the
build with `WEBOS_SESSION`, `PdmLunaService::cbFindDriveName` and `updateIsMount` divide the
block size first; the one goes on in signed 64-bit words, the other keeps 32 bits of the
product.
-/
import Pdm.Framework.DeviceSessions
import Pdm.Handlers.DeviceHandler
import Pdm.Lib.Words

namespace Pdm

namespace PdmFs

variable {m : Type → Type} [Monad m] (arith : Words.Arith m)

/-- The used size, or what the caller has in it. -/
def fillUsedSize (driveSize freeSize usedSize : Nat) : m Nat :=
  if driveSize > freeSize then arith.sub driveSize freeSize else pure usedSize

/-- The rate in per cent, or what the caller has in it. -/
def fillUsedRate (driveSize usedSize usedRate : Nat) : m Nat :=
  if driveSize ≠ 0 then arith.mul usedSize 100 >>= fun hundredfold => arith.div hundredfold driveSize
  else pure usedRate

/-- `PdmFs::calculateSpaceInfo` once `statfs` has succeeded, in the given arithmetic.  It
writes into what the caller passes. -/
def fillSpaceInfo (fsInfo : Statfs) (spaceInfo : SpaceInfo) : m SpaceInfo := do
  let blockSize := fsInfo.bsize
  let blocks ← arith.mul fsInfo.blocks blockSize
  let driveSize ← arith.div blocks 1024
  let avail ← arith.mul fsInfo.bavail blockSize
  let freeSize ← arith.div avail 1024
  let usedSize ← fillUsedSize arith driveSize freeSize spaceInfo.usedSize
  let usedRate ← fillUsedRate arith driveSize usedSize spaceInfo.usedRate
  pure { driveSize := driveSize, usedSize := usedSize, freeSize := freeSize, usedRate := usedRate }

end PdmFs

/-- A number as an `int64_t` holds it. -/
def toInt64 (n : Int) : Int := n.bmod (2 ^ 64)

/-- The object under `spaceInfo` in the reply of `cbFindDriveName`. -/
structure SessionSpaceInfo where
  driveSize : Int
  freeSize : Int
  usedRate : Int
  usedSize : Int
  deriving DecidableEq, Repr

/-- What `cbFindDriveName` computes once `statfs` has succeeded.  The products are of unsigned
words and become signed ones. -/
def LunaService.sessionSpaceInfo (fsInfo : Statfs) : SessionSpaceInfo :=
  let driveSize := toInt64 (fsInfo.blocks * (fsInfo.bsize / 1024) : Nat)
  let freeSize := toInt64 (fsInfo.bavail * (fsInfo.bsize / 1024) : Nat)
  let usedSize := if driveSize > freeSize then toInt64 (driveSize - freeSize) else 0
  let usedRate := if driveSize ≠ 0 then (toInt64 (usedSize * 100)).tdiv driveSize else 0
  { driveSize := driveSize, freeSize := freeSize, usedRate := usedRate, usedSize := usedSize }

/-- A drive in a record, with its size. -/
structure SizedDrive extends SessionDrive where
  driveSize : Int := 0
  deriving DecidableEq, Repr

namespace SessionService

/-- The size `updateIsMount` writes, 0 where `statfs` fails. -/
def mountedDriveSize (statfs : Option Statfs) : Int :=
  match statfs with
  | none => 0
  | some fsInfo => toInt32 (fsInfo.blocks * (fsInfo.bsize / 1024))

/-- The loop of `updateIsMount`: the first drive of the name is mounted and measured. -/
def markMeasured (statfs : String → Option Statfs) (driveName : String) :
    List SizedDrive → List SizedDrive
  | [] => []
  | drive :: drives =>
    if drive.driveName = driveName then
      { drive with
        isMounted := true
        driveSize := mountedDriveSize (statfs drive.mountName) } :: drives
    else drive :: markMeasured statfs driveName drives

end SessionService

end Pdm
