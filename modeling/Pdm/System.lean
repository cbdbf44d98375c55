/-
What pdm asks of the system it runs on, and what the system answers.

The kernel's part is one set: the mount points of the file systems pdm has
mounted.  It changes only in four places, each of them here: a `mount` that
succeeds, a mount helper that exits with 0, an `umount2` that succeeds and a
`fusermount -u` that exits with 0.  Every call may fail, and a call that fails
changes nothing.  Unmounting a path at which nothing is mounted always fails, with
`EINVAL` from `umount2` and with a non-zero exit from `fusermount`.

All other answers (a shell command's output, a child's exit status, the result of
`mount`) come from an `Env`, one for each step of a run, so that a statement about
every `Env` is one about every outcome.  Within a step the answers depend on the
call's arguments alone.

The calls a step makes are recorded in their order, each with the mount table it
was made under; this record is what properties such as "mkfs never runs on a
mounted partition" speak about.
-/
import Mathlib.Data.Finset.Basic
import Pdm.Common
import Pdm.Lib.Visit

namespace Pdm

/-! ### Calls -/

/-- The arguments of a `mount` system call. -/
structure MountCall where
  source : String
  target : String
  fsType : String
  flags : Nat
  data : String
  deriving DecidableEq, Repr

/-- `struct statfs`, as far as it is read. -/
structure Statfs where
  blocks : Nat
  bavail : Nat
  bsize : Nat
  deriving DecidableEq, Repr

/-- An entry of `/etc/mtab`, as far as it is read. -/
structure MntEnt where
  fsname : String
  readOnly : Bool
  deriving DecidableEq, Repr

/-- `MNT_FORCE` and `MNT_DETACH`. -/
def MNT_FORCE : Nat := 1

@[inherit_doc MNT_FORCE]
def MNT_DETACH : Nat := 2

/-- The answers of the system during one step. -/
structure Env where
  /-- What a shell command prints (`popen`). -/
  execShellCmd : String → String := fun _ => ""
  /-- The exit status of a child process. -/
  runCommand : List String → Int := fun _ => 0
  /-- Whether a path is a directory. -/
  isDirectory : String → Bool := fun _ => true
  /-- Whether `create_directories` makes the directory. -/
  createDir : String → Bool := fun _ => true
  /-- The `errno` of a `mount`, 0 when it succeeds. -/
  mount : MountCall → Nat := fun _ => 0
  /-- Whether `umount2` lets go of a path something is mounted at. -/
  umount2 : String → Nat → Bool := fun _ _ => true
  /-- `statfs` -/
  statfs : String → Option Statfs := fun _ => none
  /-- The entries of a directory, `.` and `..` among them, in the order `readdir`
  gives them, or `none` when it cannot be opened. -/
  readdir : String → Option (List String) := fun _ => none
  /-- `/etc/mtab` -/
  mtab : List MntEnt := []
  /-- `PluginAdapter::getPowerState` -/
  powerState : Bool := true

/-- A call pdm makes. -/
inductive Call where
  /-- `PdmUtils::execShellCmd` -/
  | execShellCmd (cmd : String)
  /-- `PdmUtils::runCommand` -/
  | runCommand (argv : List String)
  /-- `mount(2)` -/
  | mount (call : MountCall)
  /-- `umount2(2)` -/
  | umount2 (target : String) (flags : Nat)
  /-- `PdmUtils::createDir` -/
  | createDir (path : String)
  /-- `PdmUtils::removeDirRecursive` -/
  | removeDirRecursive (path : String)
  /-- `DiskFormat::formatDrive` for the partition with this drive and mount name -/
  | formatDrive (driveName mountName : String)
  /-- `PdmFsck::fsck` for the partition with this drive and mount name -/
  | fsck (driveName mountName : String)
  /-- `Notify`, with the address of the device it is about -/
  | notify (deviceType : DeviceEventType) (event : EventType) (device : Option Nat)
  deriving DecidableEq, Repr

/-- A call and the mount table at the time it was made. -/
structure CallRecord where
  call : Call
  mounted : Finset String
  deriving DecidableEq

/-! ### The state outside the device lists -/

/-- The kernel's mount table, the calls of the step in progress, and the next
address an allocation gets. -/
structure Sys where
  /-- The mount points of the file systems pdm has mounted. -/
  mounted : Finset String := ∅
  /-- The calls of the step in progress, oldest first. -/
  calls : List CallRecord := []
  /-- The address the next `new` returns. -/
  next : Nat := 0
  deriving DecidableEq

namespace Sys

/-- Put a call on record. -/
def record (s : Sys) (call : Call) : Sys :=
  { s with calls := s.calls ++ [⟨call, s.mounted⟩] }

/-- `new`: no address is given twice. -/
def alloc (s : Sys) : Sys := { s with next := s.next + 1 }

/-- `Notify` -/
def notify (s : Sys) (deviceType : DeviceEventType) (event : EventType)
    (device : Option Nat) : Sys :=
  s.record (.notify deviceType event device)

/-- `PdmUtils::execShellCmd` -/
def execShellCmd (env : Env) (s : Sys) (cmd : String) : String × Sys :=
  (env.execShellCmd cmd, s.record (.execShellCmd cmd))

/-- `PdmUtils::runCommand`; an empty command is not run. -/
def runCommand (env : Env) (s : Sys) (argv : List String) : Int × Sys :=
  if argv = [] ∨ argv.head? = some "" then (-1, s)
  else (env.runCommand argv, s.record (.runCommand argv))

/-- `PdmUtils::createDir` -/
def createDir (env : Env) (s : Sys) (dirName : String) : Bool × Sys :=
  if dirName = "" then (false, s)
  else if env.isDirectory dirName then (true, s)
  else (env.createDir dirName, s.record (.createDir dirName))

/-- `PdmUtils::removeDirRecursive` -/
def removeDirRecursive (s : Sys) (dirPath : String) : Sys :=
  s.record (.removeDirRecursive dirPath)

/-- `mount(2)`: the `errno`, and the table with the target in it when that is 0. -/
def mount (env : Env) (s : Sys) (call : MountCall) : Nat × Sys :=
  let s := s.record (.mount call)
  if env.mount call = 0 then (0, { s with mounted := insert call.target s.mounted })
  else (env.mount call, s)

/-- `umount2(2)`: whether it succeeded. -/
def umount2 (env : Env) (s : Sys) (target : String) (flags : Nat) : Bool × Sys :=
  let s := s.record (.umount2 target flags)
  if target ∈ s.mounted ∧ env.umount2 target flags then
    (true, { s with mounted := s.mounted.erase target })
  else (false, s)

/-- A mount helper that mounts a file system at `target`: its exit status. -/
def mountHelper (env : Env) (s : Sys) (argv : List String) (target : String) : Int × Sys :=
  let s := s.record (.runCommand argv)
  if env.runCommand argv = 0 then (0, { s with mounted := insert target s.mounted })
  else (env.runCommand argv, s)

/-- `fusermount -u target`: its exit status. -/
def fusermount (env : Env) (s : Sys) (target : String) : Int × Sys :=
  let argv := ["/usr/bin/fusermount", "-u", target]
  let s := s.record (.runCommand argv)
  if target ∈ s.mounted then
    if env.runCommand argv = 0 then (0, { s with mounted := s.mounted.erase target })
    else (env.runCommand argv, s)
  else (1, s)

end Sys

/-- What a method leaves: the system, the object it was called on and the answer. -/
abbrev Out (α ρ : Type) := Visit.Out Sys α ρ

end Pdm
