/-
The file-system tables and the command lines built from them: `DiskFormat`,
`PdmFsck`, `PdmFs::volumeLabelCommand` and `PdmFs::mountflags`.

A table is a function from the file-system string to an `Option`, `none` where the
`unordered_map` has no entry.
-/
import Pdm.System

namespace Pdm

/-! ### `DiskFormat` -/

namespace DiskFormat

/-- `volumeLabelOptions` -/
def volumeLabelOptions (fsType : String) : Option String :=
  match fsType with
  | "nofs" => some ""
  | "ntfs" => some " -L "
  | "vfat" => some " -n "
  | "jfs" => some " -L "
  | "ext2" => some " -L "
  | "ext3" => some " -L "
  | "ext4" => some " -L "
  | _ => none

/-- `formatFsCommands` -/
def formatFsCommands (fsType : String) : Option String :=
  match fsType with
  | "nofs" => some ""
  | "ntfs" => some "mkntfs -F -Q "
  | "vfat" => some "mkfs.vfat -F 32 "
  | "jfs" => some "jfs_mkfs -q -z 0x00000000 "
  | "ext2" => some "mkfs.ext2 -F "
  | "ext3" => some "mkfs.ext3 -F "
  | "ext4" => some "mkfs.ext4 -F "
  | _ => none

/-- `DiskFormat::formatCommand` -/
def formatCommand (driveName fsType volumeLabel : String) : List String :=
  match formatFsCommands fsType with
  | none => []
  | some command =>
    if splitArgs command = [] then []
    else
      let syscommand := splitArgs command ++ ["/dev/" ++ driveName]
      if volumeLabel ≠ "" then
        match volumeLabelOptions fsType with
        | some option => syscommand ++ splitArgs option ++ [volumeLabel]
        | none => syscommand ++ [volumeLabel]
      else syscommand

/-- `formatFsCommands` of either build. -/
def formatFsCommandsIn (webosSession : Bool) (fsType : String) : Option String :=
  if webosSession && fsType = "vfat" then some "mkfs.vfat " else formatFsCommands fsType

/-- `DiskFormat::formatCommand` of either build. -/
def formatCommandIn (webosSession : Bool) (driveName fsType volumeLabel : String) :
    List String :=
  match formatFsCommandsIn webosSession fsType with
  | none => []
  | some command =>
    if splitArgs command = [] then []
    else
      let syscommand := splitArgs command ++ ["/dev/" ++ driveName]
      if volumeLabel ≠ "" then
        match volumeLabelOptions fsType with
        | some option => syscommand ++ splitArgs option ++ [volumeLabel]
        | none => syscommand ++ [volumeLabel]
      else syscommand

/-- `DiskFormat::formatDrive` -/
def formatDrive (env : Env) (s : Sys) (driveName fsType volumeLabel : String) :
    PdmDevStatus × Sys :=
  let syscommand := formatCommand driveName fsType volumeLabel
  if syscommand = [] then (.unsupportedFs, s)
  else
    let ret := s.runCommand env syscommand
    if ret.1 ≠ 0 then (.formatFail, ret.2) else (.success, ret.2)

end DiskFormat

/-! ### `PdmFsck` -/

namespace PdmFsck

/-- `PDM_FSCK_AUTO` -/
def AUTO : String := "auto"

/-- `PDM_FSCK_FORCE` -/
def FORCE : String := "force"

/-- `FSCK_COMMAND_TIMEOUT`, the exit status of `timeout` -/
def COMMAND_TIMEOUT : Int := 124

/-- `fsckDriveTypeBinOptionMap`: the checker of a file system and its option. -/
def fsckDriveTypeBinOptionMap (driveType : String) : Option (String × String) :=
  match driveType with
  | "nofs" => some ("", "")
  | "ntfs" => some ("ntfsck", "-p")
  | "tntfs" => some ("ntfsck", "-p")
  | "vfat" => some ("fsck.vfat", "-a")
  | "tfat" => some ("fsck.fat", "")
  | "jfs" => some ("jfs_fsck", "-Q -z 0x00000000")
  | "ext2" => some ("fsck.ext2", "")
  | "ext3" => some ("fsck.ext3", "")
  | "ext4" => some ("fsck.ext4", "")
  | "ptp_fuse" => some ("", "")
  | "mtp_fuse" => some ("", "")
  | "exfat" => some ("", "")
  | "err" => some ("", "")
  | _ => none

/-- `PdmFsck::getFsckMode` -/
def getFsckMode (driveType fsckMode : String) : String :=
  match driveType with
  | "tntfs" => if fsckMode = AUTO then "-C -at 20" else "-C"
  | "tfat" => if fsckMode = AUTO then "-a -t 20" else ""
  | "jfs" => if fsckMode = FORCE then "-f --omit_journal_replay" else "-a"
  | "ext2" => if fsckMode = FORCE then "-yf" else "-y"
  | "ext3" => if fsckMode = FORCE then "-yf" else "-y"
  | "ext4" => if fsckMode = FORCE then "-yf" else "-y"
  | _ => ""

/-- `PdmFsck::fsckCommand` -/
def fsckCommand (fsckMode driveType partitionName : String) : List String :=
  match fsckDriveTypeBinOptionMap driveType with
  | none => []
  | some (fsckbin, fsckOption) =>
    if fsckbin = "" then []
    else
      (if fsckMode = AUTO ∧ driveType ≠ "tntfs" ∧ driveType ≠ "tfat" then
          splitArgs "timeout 20 " else [])
        ++ [fsckbin] ++ splitArgs (getFsckMode driveType fsckMode) ++ splitArgs fsckOption
        ++ ["/dev/" ++ partitionName]

/-- `PdmFsck::fsck`: only the exit statuses 1, 2 and 124 count as failures. -/
def fsck (env : Env) (s : Sys) (fsckMode driveType partitionName : String) :
    PdmDevStatus × Sys :=
  let sysCommand := fsckCommand fsckMode driveType partitionName
  if sysCommand = [] then (.fsckFail, s)
  else
    let result := s.runCommand env sysCommand
    if result.1 = 1 ∨ result.1 = 2 then (.fsckFail, result.2)
    else if result.1 = COMMAND_TIMEOUT then (.fsckTimeout, result.2)
    else (.success, result.2)

end PdmFsck

/-! ### The tables of `PdmFs` -/

namespace PdmFs

/-- `mountData[fsType]`, with the empty string for what the map does not hold. -/
def mountData (fsType : String) : String :=
  match fsType with
  | "ntfs" => "uid=0,gid=5000,umask=0002"
  | "tntfs" => "nls=utf8,max_prealloc_size=64m,uid=0,gid=5000,umask=0002"
  | "vfat" => "shortname=mixed,uid=0,gid=5000,umask=0002"
  | "tfat" => "iocharset=utf8,fastmount=1,max_prealloc_size=32m,uid=0,gid=5000,umask=0002"
  | "ext3" => "data=journal"
  | _ => ""

/-- The bits of `mountflags`, from `sys/mount.h`. -/
def MS_RDONLY : Nat := 1

@[inherit_doc MS_RDONLY]
def MS_NOATIME : Nat := 1024

@[inherit_doc MS_RDONLY]
def MS_NODIRATIME : Nat := 2048

@[inherit_doc MS_RDONLY]
def MS_RELATIME : Nat := 2097152

@[inherit_doc MS_RDONLY]
def MS_MGC_VAL : Nat := 0xC0ED0000

/-- `PdmFs::mountflags` -/
def mountflags (fsType : String) (readOnly : Bool) : Nat :=
  MS_MGC_VAL
    ||| (if fsType = "ext3" ∨ fsType = "ext4" ∨ fsType = "jfs" then MS_NOATIME ||| MS_NODIRATIME
      else if fsType = "vfat" then MS_RELATIME else 0)
    ||| (if readOnly then MS_RDONLY else 0)

/-- `PdmFs::isSupportedFileSystem` -/
def isSupportedFileSystem (fsType storageType : String) : Bool :=
  if fsType = "" then false
  else if storageType = "UNKNOWN" || storageType = "STREAMING" then false
  else fsType = "vfat" || fsType = "ntfs" || fsType = "ext2" || fsType = "ext3" || fsType = "ext4"

/-- `PdmFs::volumeLabelCommand` -/
def volumeLabelCommand (fsType driveName volLabel : String) : List String :=
  if fsType = "tntfs" ∨ fsType = "ntfs" then
    ["ntfslabel", "-f", "/dev/" ++ driveName, volLabel]
  else if fsType = "vfat" ∨ fsType = "tfat" then
    ["fatlabel", "-f", "-l", volLabel, "/dev/" ++ driveName]
  else if fsType = "ext2" ∨ fsType = "ext3" ∨ fsType = "ext4" then
    ["e2label", "/dev/" ++ driveName, volLabel]
  else []

end PdmFs

end Pdm
